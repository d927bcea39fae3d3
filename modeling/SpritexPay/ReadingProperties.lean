import SpritexPay.AnswerProperties
import SpritexPay.SettingsProperties

/-! What a listing shows. Its one statement was executed while the request ran, and what
the client was answered is what the tables held at that moment: the newest rows of a
table, or the settings of a group as they had been set last. -/

set_option autoImplicit false

namespace SpritexPay

open Relational Resumption

/-! ## Requests of one statement -/

/-- The statement was answered so. -/
def Heard (op : ConsoleStatement) (told : op.Answer → Prop) (issued : console.signature.Op)
    (reply : console.signature.Reply issued) : Prop :=
  ∃ answer, told answer ∧ (⟨issued, reply⟩ : (_ : console.signature.Op) × _) =
    ⟨.inr op, .ok answer⟩

section Gates

variable {Failure : Type} {opens : (op : console.signature.Op) → console.signature.Reply op → Prop}

theorem gated_console [FromError SqlError Failure] {op : ConsoleStatement}
    {told : op.Answer → Prop} :
    (consoleSql op : Site Failure op.Answer).run.Gated (fun _ => False) (Heard op told)
      fun outcome => ∀ answer, outcome = .ok answer → ¬told answer := by
  refine ⟨id, fun reply => ?_⟩
  cases reply with
  | error error => exact .inr fun _ same => by cases same
  | ok answer =>
      by_cases heard : told answer
      · exact .inl ⟨answer, heard, rfl⟩
      · refine .inr fun other same => ?_
        cases same
        exact heard

theorem gated_answering [FromError SqlError Failure] {convert : Failure → Http.ApiError}
    {status : Http.Status} {op : ConsoleStatement} {wrap : op.Answer → Http.Body}
    {body : Http.Body} :
    (Http.answering convert status wrap (consoleSql op : Site Failure op.Answer)).run.Gated
      (fun _ => False) (Heard op fun answer => wrap answer = body)
      fun outcome => ∀ shown, outcome ≠ .ok (.answered shown body) := by
  have found : ((consoleSql op : Site Failure op.Answer).adapt convert).run.Gated (fun _ => False)
      (Heard op fun answer => wrap answer = body)
      fun outcome => ∀ answer, outcome = .ok answer → wrap answer ≠ body := by
    refine gated_adapt gated_console fun outcome other answer same => ?_
    cases outcome with
    | error error => cases same
    | ok found => exact other answer (by rw [Except.ok.inj same])
  refine gated_bind found (fun answer other shown same => ?_) fun _ _ _ same => by cases same
  cases same
  exact other answer rfl rfl

variable {installation : Installation} {incoming : Http.Incoming}

theorem gated_reading [FromError SqlError Failure] {convert : Failure → Http.ApiError}
    {status : Http.Status} {op : ConsoleStatement} {wrap : op.Answer → Http.Body}
    {body : Http.Body}
    (handled : Http.handle installation incoming incoming.endpoint =
      Http.answering convert status wrap (consoleSql op : Site Failure op.Answer)) :
    (incoming.program installation).Gated (fun _ => False)
      (Heard op fun answer => wrap answer = body)
      fun reply => ∀ shown, reply ≠ .answered shown body := by
  have served : (Http.guard installation incoming.headers incoming.now incoming.endpoint.tier >>=
      fun _ => Http.handle installation incoming incoming.endpoint).run.Gated (fun _ => False)
        (Heard op fun answer => wrap answer = body)
        fun outcome => ∀ shown, outcome ≠ .ok (.answered shown body) := by
    have guards : (Http.guard installation incoming.headers incoming.now
        incoming.endpoint.tier).run.Gated (fun _ => False)
          (Heard op fun answer => wrap answer = body) fun _ => True :=
      Program.gated_of_uses (uses_anything _) fun _ _ => not_false
    refine gated_bind guards (fun _ _ => ?_) fun _ _ _ same => by cases same
    rw [handled]
    exact gated_answering
  refine Program.Gated.bind served fun outcome other shown same => other shown ?_
  cases outcome with
  | error error => cases same
  | ok reply => exact congrArg Except.ok same

end Gates

section Run

variable {Thread : Type} [DecidableEq Thread] {installation : Installation} {store : Store}
  {tasks : Thread → Task} {faults : Bool}
  {past : List (Event console.signature Store Thread Outcome)}
  {config : Config console.signature Store Thread Outcome}

theorem executed_of_heard {newer older : List (Event console.signature Store Thread Outcome)}
    {event : Event console.signature Store Thread Outcome} {op : ConsoleStatement}
    {told : op.Answer → Prop}
    (run : Run database faults (installation.surface store tasks) (newer ++ event :: older) config)
    (heard : Heard op told event.act.op event.act.reply) :
    ∃ answer, told answer ∧ ∃ env after,
      op.exec env event.act.before.1 event.act.before.2 = .ok (answer, after) := by
  obtain ⟨_, _, _, _, _, _, replied, _⟩ := run.event_cases
  obtain ⟨thread, ⟨issued, reply, before, after⟩, threads⟩ := event
  obtain ⟨answer, tells, same⟩ := heard
  cases same
  obtain ⟨_, ⟨env, _, executed, same⟩ | ⟨_, failed, _⟩⟩ := Machine.replies_inr replied
  · cases same
    exact ⟨answer, tells, env, _, executed⟩
  · cases failed

/-- What a request of one statement was answered, its statement was answered. -/
theorem heard_of_run {Failure : Type} [FromError SqlError Failure]
    (run : Run database faults (installation.surface store tasks) past config)
    {thread : Thread} {incoming : Http.Incoming} {status expected : Http.Status} {body : Http.Body}
    {convert : Failure → Http.ApiError} {op : ConsoleStatement} {wrap : op.Answer → Http.Body}
    (asked : tasks thread = .incoming incoming)
    (handled : Http.handle installation incoming incoming.endpoint =
      Http.answering convert expected wrap (consoleSql op : Site Failure op.Answer))
    (finished : config.threads thread = .done (.replied (.answered status body))) :
    ∃ later lookup earlier, past = later ++ lookup :: earlier ∧ lookup.thread = thread ∧
      Heard op (fun answer => wrap answer = body) lookup.act.op lookup.act.reply := by
  have gated : ((tasks thread).program installation).Gated (fun _ => False)
      (Heard op fun answer => wrap answer = body)
      fun outcome => ∀ shown, outcome ≠ .replied (.answered shown body) := by
    rw [asked]
    refine Program.Gated.bind (gated_reading handled) fun reply other shown same => ?_
    exact other shown (Outcome.replied.inj same)
  obtain ⟨lookup, member, own, heard⟩ := run.earned gated finished fun other => other status rfl
  obtain ⟨later, earlier, rfl⟩ := List.append_of_mem member
  exact ⟨later, lookup, earlier, rfl, own, heard⟩

end Run

/-! ## Settings -/

namespace Settings

/-- What a run has set, the newest first. -/
def written {Thread : Type} :
    List (Event console.signature Store Thread Outcome) → List Setting
  | [] => []
  | ⟨_, ⟨.inr (.setSetting key value), .ok _, _, _⟩, _⟩ :: earlier =>
      ⟨key, some value⟩ :: written earlier
  | _ :: earlier => written earlier

/-- The setting as it was set last or, where it never was, as it was at first. -/
def Current (initial : Table SettingRow) (settings : List Setting) (setting : Setting) : Prop :=
  settings.find? (·.key == setting.key) = some setting ∨
    settings.find? (·.key == setting.key) = none ∧ Holds initial setting

/-- A page shows, in key order, the current settings that its pattern finds. -/
structure Listed (initial : Table SettingRow) (settings : List Setting) (group : String)
    (listed : List Setting) : Prop where
  ordered : listed.Pairwise fun left right => left.key < right.key
  exact : ∀ setting, setting ∈ listed ↔ Current initial settings setting ∧
    Textual.like (group ++ ".%").toList setting.key.toList = true

theorem current_cons {initial : Table SettingRow} {settings : List Setting} {key value : String}
    {setting : Setting} : Current initial (⟨key, some value⟩ :: settings) setting ↔
      setting = ⟨key, some value⟩ ∨ setting.key ≠ key ∧ Current initial settings setting := by
  by_cases own : key = setting.key
  · simp only [Current, List.find?_cons, own, beq_self_eq_true, Option.some.injEq, reduceCtorEq,
      false_and, or_false, ne_eq, not_true]
    exact eq_comm
  · have apart : (key == setting.key) = false := beq_false_of_ne own
    simp only [Current, List.find?_cons, apart]
    constructor
    · exact fun current => .inr ⟨Ne.symm own, current⟩
    · rintro (rfl | ⟨_, current⟩)
      · exact absurd rfl own
      · exact current

theorem holds_of_origins {entered : ConsoleStatement → Prop} {before after : Console}
    {setting : Setting} (origins : before.Origins entered after)
    (unset : ∀ key value, ¬entered (.setSetting key value)) :
    Holds after.settings setting ↔ Holds before.settings setting := by
  constructor
  · rintro ⟨row, member, rfl⟩
    rcases origins.settings.source member with ⟨old, oldMember, _, same | entry⟩ | entry
    · exact ⟨old, oldMember, by rw [same]⟩
    · obtain ⟨_, _, asked⟩ := entry
      exact absurd asked (unset _ _)
    · obtain ⟨_, _, asked⟩ := entry
      exact absurd asked (unset _ _)
  · rintro ⟨row, member, rfl⟩
    obtain ⟨later, laterMember, _, same | entry⟩ := origins.settings.mem member
    · exact ⟨later, laterMember, by rw [same]⟩
    · obtain ⟨_, _, asked⟩ := entry
      exact absurd asked (unset _ _)

theorem written_cons {Thread : Type} (event : Event console.signature Store Thread Outcome)
    (past : List (Event console.signature Store Thread Outcome)) :
    (∃ key value, Heard (.setSetting key value) (fun _ => True) event.act.op event.act.reply ∧
      written (event :: past) = ⟨key, some value⟩ :: written past) ∨
    (∀ key value, ¬Heard (.setSetting key value) (fun _ => True) event.act.op event.act.reply) ∧
      written (event :: past) = written past := by
  obtain ⟨thread, ⟨op, reply, before, after⟩, threads⟩ := event
  rw [written.eq_def]
  dsimp only
  split
  · rename_i same
    cases same
  · rename_i key value _ _ _ _ _ same
    cases same
    exact .inl ⟨key, value, ⟨_, trivial, rfl⟩, rfl⟩
  · rename_i other same
    cases same
    refine .inr ⟨fun key value heard => ?_, rfl⟩
    obtain ⟨answer, _, same⟩ := heard
    cases same
    exact other _ _ _ _ _ _ _ rfl

theorem written_of_heard {Thread : Type} {event : Event console.signature Store Thread Outcome}
    {key value : String} (past : List (Event console.signature Store Thread Outcome))
    (heard : Heard (.setSetting key value) (fun _ => True) event.act.op event.act.reply) :
    written (event :: past) = ⟨key, some value⟩ :: written past := by
  rcases written_cons event past with ⟨_, _, ⟨_, _, told⟩, sets⟩ | ⟨unset, _⟩
  · obtain ⟨_, _, same⟩ := heard
    cases same.symm.trans told
    exact sets
  · exact absurd heard (unset key value)

section Run

variable {Thread : Type} [DecidableEq Thread] {installation : Installation} {store : Store}
  {tasks : Thread → Task} {faults : Bool}
  {past : List (Event console.signature Store Thread Outcome)}
  {config : Config console.signature Store Thread Outcome}

/-- What does not set a setting leaves them as they are. -/
theorem holds_reply {op : console.signature.Op} {before after : Store} {setting : Setting}
    {reply : console.signature.Reply op} (replied : database.Replies faults op before reply after)
    (unset : ∀ key value, ¬Heard (.setSetting key value) (fun _ => True) op reply) :
    Holds after.2.settings setting ↔ Holds before.2.settings setting := by
  cases reply with
  | ok answer =>
      refine holds_of_origins (origins_reply replied) fun key value => ?_
      rintro ⟨rfl, _⟩
      exact unset key value ⟨answer, trivial, rfl⟩
  | error error =>
      cases op with
      | inl op => rw [(Machine.replies_inl replied).2]
      | inr op =>
          obtain ⟨_, ⟨_, _, _, failed⟩ | ⟨_, _, kept⟩⟩ := Machine.replies_inr replied
          · cases failed
          · rw [kept]

theorem current_of_run
    (run : Run database faults (installation.surface store tasks) past config) {setting : Setting} :
    Holds config.store.2.settings setting ↔
      Current store.2.settings (written past) setting := by
  induction run with
  | start =>
      exact ⟨fun held => .inr ⟨rfl, held⟩, fun current => current.elim (by rintro ⟨⟩) And.right⟩
  | @step past config thread op next reply after earlier waiting replied ih =>
      rcases written_cons ⟨thread, ⟨op, reply, config.store, after⟩, config.threads⟩ past with
        ⟨key, value, ⟨_, _, same⟩, sets⟩ | ⟨unset, keeps⟩
      · cases same
        obtain ⟨_, ⟨env, _, executed, _⟩ | ⟨_, failed, _⟩⟩ := Machine.replies_inr replied
        · rw [sets, current_cons, ← ih, ← (Prod.mk.inj (Except.ok.inj executed)).2]
          exact holds_set
        · cases failed
      · rw [keeps, ← ih]
        exact holds_reply replied unset

end Run

end Settings

/-- In every run the settings are a register for each key. A page that was listed shows
what the settings of a group had been set to last at one moment of its request, and a
request to set one that was answered has set it at one moment of its own. -/
theorem settings_read_last_set {Thread : Type} [DecidableEq Thread] {installation : Installation}
    {store : Store} {tasks : Thread → Task} {faults : Bool}
    {past : List (Event console.signature Store Thread Outcome)}
    {config : Config console.signature Store Thread Outcome}
    (run : Run database faults (installation.surface store tasks) past config) :
    (∀ (thread : Thread) (status : Http.Status) (listed : List Setting),
      config.threads thread = .done (.replied (.answered status (.settings listed))) →
      ∃ incoming group later lookup earlier, tasks thread = .incoming incoming ∧
        incoming.endpoint = .getSettings group ∧ past = later ++ lookup :: earlier ∧
        lookup.thread = thread ∧
        Settings.Listed store.2.settings (Settings.written earlier) group listed) ∧
    ∀ (thread : Thread) (incoming : Http.Incoming) (key value : String) (status : Http.Status)
      (body : Http.Body), tasks thread = .incoming incoming →
      incoming.endpoint = .putSetting key value →
      config.threads thread = .done (.replied (.answered status body)) →
      ∃ later entry earlier, past = later ++ entry :: earlier ∧ entry.thread = thread ∧
        Settings.written (entry :: earlier) = ⟨key, some value⟩ :: Settings.written earlier := by
  constructor
  · intro thread status listed finished
    obtain ⟨incoming, asked, answers⟩ := answers_of_run run finished
    cases endpoint : incoming.endpoint with
    | getSettings group =>
        obtain ⟨later, lookup, earlier, rfl, own, heard⟩ :=
          heard_of_run run asked (by rw [endpoint]; rfl) finished
        obtain ⟨answer, same, _, _, executed⟩ := executed_of_heard run heard
        obtain ⟨_, _, earlierRun, seen, _⟩ := run.event_cases
        cases same
        obtain ⟨rfl, _⟩ := Prod.mk.inj (Except.ok.inj executed)
        refine ⟨incoming, group, later, lookup, earlier, asked, endpoint, rfl, own,
          Settings.ordered_getGroup _ _, fun setting => ?_⟩
        rw [Settings.mem_getGroup, ← seen, Settings.current_of_run earlierRun]
    | _ =>
        rw [endpoint] at answers
        exact answers.elim
  · intro thread incoming key value status body asked endpoint finished
    obtain ⟨later, entry, earlier, happened, own, answer, _, same⟩ :=
      heard_of_run run asked (by rw [endpoint]; rfl) finished
    exact ⟨later, entry, earlier, happened, own,
      Settings.written_of_heard earlier ⟨answer, trivial, same⟩⟩

/-- A setting, and the page that shows it. -/
def settingAndPage : Bool → Task
  | false => .incoming (sampleIncoming (.putSetting "brand.name" "Shop") sampleHeaders)
  | true => .incoming (sampleIncoming (.getSettings "brand") sampleHeaders)

theorem settings_read_last_set_sample : ∃ past config,
    Run database true (sampleInstallation.surface (Db.empty, .empty) settingAndPage) past config ∧
      (∃ later entry earlier, past = later ++ entry :: earlier ∧ entry.thread = false ∧
        Settings.written (entry :: earlier) =
          ⟨"brand.name", some "Shop"⟩ :: Settings.written earlier) ∧
      ∃ later lookup earlier, past = later ++ lookup :: earlier ∧
        Settings.Listed ∅ (Settings.written earlier) "brand" [⟨"brand.name", some "Shop"⟩] := by
  have run := Run.scheduled database true
    (sampleInstallation.surface (Db.empty, .empty) settingAndPage) sampleEnv [false, true]
  have set : Outcome.answer? (((sampleInstallation.surface (Db.empty, .empty)
      settingAndPage).schedule database sampleEnv [false, true]).threads false) =
        some (.noContent, .empty) := by
    decide +kernel
  have shown : Outcome.answer? (((sampleInstallation.surface (Db.empty, .empty)
      settingAndPage).schedule database sampleEnv [false, true]).threads true) =
        some (.ok, .settings [⟨"brand.name", some "Shop"⟩]) := by
    decide +kernel
  obtain ⟨reads, sets⟩ := settings_read_last_set run
  obtain ⟨incoming, group, later, lookup, earlier, asked, endpoint, happened, _, listed⟩ :=
    reads true _ _ (Outcome.eq_of_answer? shown)
  cases asked
  cases endpoint
  exact ⟨_, _, run, sets false _ _ _ _ _ rfl rfl (Outcome.eq_of_answer? set), later, lookup,
    earlier, happened, listed⟩

/-! ## Pages -/

namespace Http

end Http

end SpritexPay
