import SpritexPay.AnswerProperties

/-! Who is shown the secret of the forwarders. A client that was shown it presented a
token that a session had paired a device with. -/

set_option autoImplicit false

namespace SpritexPay

open Relational Resumption

/-- A lookup that found the device of a token. -/
def DeviceFound (hmac : Hmac) (token deviceId : String) :
    (op : console.signature.Op) → console.signature.Reply op → Prop
  | .inr (.activeDevice tokenSha256), .ok (some id) =>
      tokenSha256 = Device.digest hmac token ∧ id = deviceId
  | _, _ => False

theorem Console.gated_exchangeToken {hmac : Hmac} {token deviceId : String} :
    (exchangeToken hmac token).run.Gated (fun _ => False) (DeviceFound hmac token deviceId)
      fun outcome => outcome ≠ .ok (some deviceId) := by
  have looks : (consoleSql (.activeDevice (Device.digest hmac token)) :
      Site SqlError (Option String)).run.Gated (fun _ => False) (DeviceFound hmac token deviceId)
        fun outcome => outcome ≠ .ok (some deviceId) := by
    refine ⟨id, fun reply => ?_⟩
    cases reply with
    | error error => exact .inr fun same => by cases same
    | ok found =>
        cases found with
        | none => exact .inr fun same => by cases same
        | some other =>
            by_cases named : other = deviceId
            · exact .inl ⟨rfl, named⟩
            · refine .inr fun same => ?_
              cases same
              exact named rfl
  refine gated_bind looks (fun found other => ?_) fun failure _ same => by cases same
  cases found with
  | none => exact fun same => by cases same
  | some id =>
      have stamps : (consoleSql (.stampDevice id) >>= fun _ => pure (some id) :
          Site SqlError (Option String)).run.Uses (fun _ => True)
            fun outcome => outcome ≠ .ok (some deviceId) :=
        uses_bind (uses_anything _) (fun _ _ same => other same) fun _ _ same => by cases same
      exact Program.gated_of_uses stamps fun _ _ => not_false

theorem Http.gated_exchange {installation : Installation} {incoming : Incoming} {token : String}
    {reply : Exchanged} (asked : incoming.endpoint = .exchangeToken token) :
    (incoming.program installation).Gated (fun _ => False)
      (DeviceFound installation.hmac token reply.deviceId)
      fun answer => answer ≠ .answered .ok (.exchanged reply) := by
  have exchanges : (exchange installation token).run.Gated (fun _ => False)
      (DeviceFound installation.hmac token reply.deviceId)
      fun outcome => outcome ≠ .ok (.answered .ok (.exchanged reply)) := by
    have found : ((Console.exchangeToken installation.hmac token).adapt dbError).run.Gated
        (fun _ => False) (DeviceFound installation.hmac token reply.deviceId)
        fun outcome => outcome ≠ .ok (some reply.deviceId) := by
      refine gated_adapt Console.gated_exchangeToken fun outcome other same => other ?_
      cases outcome with
      | error error => cases same
      | ok found => rw [Except.ok.inj same]
    refine gated_bind found (fun found other => ?_) fun _ _ same => by cases same
    cases found with
    | none => exact fun same => by cases same
    | some id =>
        intro same
        cases same
        exact other rfl
  unfold Incoming.program
  rw [asked]
  refine Program.Gated.bind exchanges fun outcome other same => other ?_
  cases outcome with
  | error error => cases same
  | ok answer => exact congrArg Except.ok same

section Run

variable {Thread : Type} [DecidableEq Thread] {installation : Installation} {store : Store}
  {tasks : Thread → Task} {faults : Bool}
  {config : Config console.signature Store Thread Outcome}

theorem paired_of_event {newer older : List (Event console.signature Store Thread Outcome)}
    {event : Event console.signature Store Thread Outcome} {token deviceId : String}
    (run : Run database faults (installation.surface store tasks) (newer ++ event :: older) config)
    (found : DeviceFound installation.hmac token deviceId event.act.op event.act.reply) :
    ∃ device ∈ event.act.before.2.devices, device.id = deviceId ∧ device.status = .active ∧
      device.tokenSha256 = Device.digest installation.hmac token := by
  obtain ⟨_, _, _, _, _, _, replied, _⟩ := run.event_cases
  obtain ⟨thread, ⟨op, reply, before, after⟩, threads⟩ := event
  cases op with
  | inl op => exact found.elim
  | inr op =>
      cases op with
      | activeDevice tokenSha256 =>
          cases reply with
          | error error => exact found.elim
          | ok answer =>
              cases answer with
              | none => exact found.elim
              | some id =>
                  obtain ⟨rfl, rfl⟩ := found
                  rcases (Machine.replies_inr replied).2 with ⟨env, answer, executed, same⟩ |
                    ⟨_, refused, _⟩
                  · cases same
                    obtain ⟨looked, _⟩ := Prod.mk.inj (Except.ok.inj executed)
                    obtain ⟨device, stored, rfl⟩ := Option.map_eq_some_iff.mp looked
                    obtain ⟨member, matching⟩ := Table.mem_of_find?_eq_some stored
                    simp only [Bool.and_eq_true, beq_iff_eq] at matching
                    exact ⟨device, member, rfl, matching.2, matching.1⟩
                  · cases refused
      | _ => exact found.elim

end Run

/-- Whoever was shown the secret presented the token of an active device, and the device
was there at the start or a session had paired it. -/
theorem secret_shown_to_paired {Thread : Type} [DecidableEq Thread]
    {installation : Installation} {store : Store} {tasks : Thread → Task} {faults : Bool}
    {past : List (Event console.signature Store Thread Outcome)}
    {config : Config console.signature Store Thread Outcome}
    (run : Run database faults (installation.surface store tasks) past config)
    {thread : Thread} {reply : Exchanged}
    (shown : config.threads thread = .done (.replied (.answered .ok (.exchanged reply)))) :
    ∃ incoming token later lookup earlier device, tasks thread = .incoming incoming ∧
      incoming.endpoint = .exchangeToken token ∧ past = later ++ lookup :: earlier ∧
      lookup.thread = thread ∧ device ∈ lookup.act.before.2.devices ∧
      device.id = reply.deviceId ∧ device.status = .active ∧
      device.tokenSha256 = Device.digest installation.hmac token ∧
      ((∃ old ∈ store.2.devices, old.id = device.id ∧ old.tokenSha256 = device.tokenSha256) ∨
        Task.Entered installation tasks earlier
          (.insertDevice device.id device.label device.tokenSha256)) := by
  obtain ⟨incoming, asked, answers⟩ := answers_of_run run shown
  obtain ⟨token, endpoint⟩ : ∃ token, incoming.endpoint = .exchangeToken token := by
    cases endpoint : incoming.endpoint with
    | exchangeToken token => exact ⟨token, rfl⟩
    | _ =>
        rw [endpoint] at answers
        exact answers.elim
  have gated : ((tasks thread).program installation).Gated (fun _ => False)
      (DeviceFound installation.hmac token reply.deviceId)
      fun outcome => outcome ≠ .replied (.answered .ok (.exchanged reply)) := by
    rw [asked]
    refine Program.Gated.bind (Http.gated_exchange endpoint) fun answer other same => other ?_
    exact Outcome.replied.inj same
  obtain ⟨lookup, member, same, found⟩ := run.earned gated shown (fun other => other rfl)
  obtain ⟨later, earlier, rfl⟩ := List.append_of_mem member
  obtain ⟨device, stored, named, live, digest⟩ := paired_of_event run found
  refine ⟨incoming, token, later, lookup, earlier, device, asked, endpoint, rfl, same, stored,
    named, live, digest, ?_⟩
  obtain ⟨middle, _, earlierRun, seen, _⟩ := run.event_cases
  have origins := (origins_of_run earlierRun fun _ member _ issued answered administers =>
    task_entered_of_run earlierRun member member issued answered administers).devices
  rw [seen] at origins
  rcases origins.source stored with ⟨old, oldMember, kept⟩ | entered
  · refine .inl ⟨old, oldMember, ?_⟩
    rw [show device = _ from kept]
    exact ⟨rfl, rfl⟩
  · exact .inr entered.2

theorem secret_shown_to_paired_sample : ∃ past config,
    Run database true (sampleInstallation.surface (Db.empty, .empty) pairAndExchange) past config ∧
      ∃ lookup ∈ past, lookup.thread = true ∧ ∃ device ∈ lookup.act.before.2.devices,
        device.id = "dev_1" ∧ device.status = .active := by
  have run := Run.scheduled database true
    (sampleInstallation.surface (Db.empty, .empty) pairAndExchange) sampleEnv [false, true, true]
  have shown : ((sampleInstallation.surface (Db.empty, .empty) pairAndExchange).schedule
      database sampleEnv [false, true, true]).threads true =
        .done (.replied (.answered .ok (.exchanged ⟨"dev_1", "sms-secret"⟩))) := by
    rfl
  obtain ⟨_, _, later, lookup, earlier, device, _, _, happened, same, stored, named, live, _⟩ :=
    secret_shown_to_paired run shown
  refine ⟨_, _, run, lookup, ?_, same, device, stored, named, live⟩
  rw [happened]
  exact List.mem_append_right later List.mem_cons_self

end SpritexPay
