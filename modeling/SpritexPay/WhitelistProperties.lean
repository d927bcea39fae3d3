import SpritexPay.CheckoutProperties
import SpritexPay.Evolution
import SpritexPay.Uri

/-! The host whitelist of the checkouts. What `is_allowed` compares with the list
is the text before the first ':' or '/' after the scheme. For some URLs that is
not the host they lead to. -/

set_option autoImplicit false

namespace SpritexPay

open Binary64 Relational Resumption

namespace Db

def Lists (db : Db) (host : String) : Prop := ∃ domain ∈ db.allowedDomains, domain.domain = host

def allows (db : Db) : Option String → Bool
  | none => true
  | some url =>
      db.allowedDomains.rows.length == 0 ||
        (Domain.hostOf url).any fun host => db.allowedDomains.rows.any (·.domain == host)

end Db

namespace Domain

variable {url : String} {db after : Db}

theorem runs_isAllowed {url : Option String} {outcome : Except SqlError Bool}
    (runs : sqlite.Runs (isAllowed url).run db outcome after) :
    outcome = .ok (db.allows url) ∧ after = db := by
  cases url with
  | none => exact Machine.runs_done_iff.mp runs
  | some url =>
      obtain ⟨env, rest⟩ := Machine.runs_stmt_iff.mp runs
      change sqlite.Runs (if db.allowedDomains.rows.length = 0 then pure true
        else match hostOf url with
          | none => return false
          | some host => do
              let hit ← sql (.domainNamed host)
              return hit.isSome : Query SqlError Bool).run db outcome after at rest
      by_cases unlisted : db.allowedDomains.rows.length = 0
      · rw [if_pos unlisted] at rest
        obtain ⟨rfl, rfl⟩ := Machine.runs_done_iff.mp rest
        exact ⟨by rw [Db.allows, unlisted]; rfl, rfl⟩
      · have listed : (db.allowedDomains.rows.length == 0) = false :=
          beq_eq_false_iff_ne.mpr unlisted
        rw [if_neg unlisted] at rest
        cases host : hostOf url with
        | none =>
            rw [host] at rest
            obtain ⟨rfl, rfl⟩ := Machine.runs_done_iff.mp rest
            exact ⟨by rw [Db.allows, listed, host]; rfl, rfl⟩
        | some named =>
            rw [host] at rest
            obtain ⟨later, rest⟩ := Machine.runs_stmt_iff.mp rest
            obtain ⟨rfl, rfl⟩ := Machine.runs_done_iff.mp rest
            refine ⟨?_, rfl⟩
            rw [Db.allows, listed, host]
            refine congrArg Except.ok (Bool.eq_iff_iff.mpr ?_)
            simp [Table.find?, List.find?_isSome]

theorem isAllowed_runs (url : Option String) (db : Db) :
    sqlite.Runs (isAllowed url).run db (.ok (db.allows url)) db := by
  have runs := sqlite.runs_run (isAllowed url).run (fun _ => ⟨0, .status 0⟩) db
  obtain ⟨answered, same⟩ := runs_isAllowed runs
  rwa [answered, same] at runs

/-- The text that is looked up stands before the first ':' or '/'. -/
theorem hostOf_eq (url : String) :
    hostOf url =
      let text := ((afterScheme url.toList).getD url.toList).takeWhile fun char =>
        !Uri.delimits char
      if text.isEmpty then none else some (String.ofList text) := by
  have cut : ∀ text : List Char, (text.takeWhile (· != '/')).takeWhile (· != ':') =
      text.takeWhile fun char => !Uri.delimits char := by
    intro text
    rw [List.takeWhile_takeWhile]
    refine Uri.takeWhile_congr fun char _ => ?_
    by_cases colon : char = ':' <;> by_cases slash : char = '/' <;>
      simp [Uri.delimits, colon, slash]
  simp only [hostOf, cut]

theorem afterScheme_eq (text : List Char) :
    afterScheme text = (Uri.splitScheme text).map (·.2) := by
  induction text using afterScheme.induct with
  | case1 => rfl
  | case2 rest => rfl
  | case3 head rest other ih =>
      rw [afterScheme, Uri.splitScheme, ih]
      · cases Uri.splitScheme rest <;> rfl
      · exact other
      · exact other

end Domain

/-! ## URLs the whitelist is right about -/

namespace Domain

def Accepts (db : Db) (url : String) : Prop :=
  ∃ after, sqlite.Runs (isAllowed (some url)).run db (.ok true) after

/-- No text stands between the scheme, or the beginning where there is none, and
the next ':' or '/'. -/
def Hostless (url : String) : Prop :=
  ∀ char ∈ ((afterScheme url.toList).getD url.toList).head?, Uri.delimits char = true

/-- A URL of the web that begins, after its scheme, with its own host. -/
def Plain (url : String) : Prop :=
  ∃ uri, Uri.parse url.toList = some uri ∧ uri.isWeb = true ∧ uri.Leads

end Domain

/-- The URL is one of the web, and its host is on the list. -/
def Db.LeadsInside (db : Db) (url : String) : Prop :=
  ∃ uri, Uri.parse url.toList = some uri ∧ uri.isWeb = true ∧ db.Lists (String.ofList uri.host)

namespace Domain

variable {db : Db} {url : String}

theorem accepts_iff : Accepts db url ↔ db.allows (some url) = true := by
  constructor
  · rintro ⟨after, runs⟩
    exact (Except.ok.inj (runs_isAllowed runs).1).symm
  · intro allowed
    exact ⟨db, allowed ▸ isAllowed_runs (some url) db⟩

theorem lists_iff {host : String} :
    db.Lists host ↔ (db.allowedDomains.rows.any (·.domain == host)) = true := by
  simp [Db.Lists, ← Table.mem_rows]

theorem allows_iff (listed : db.allowedDomains.rows ≠ []) :
    db.allows (some url) = true ↔ ∃ host, hostOf url = some host ∧ db.Lists host := by
  have counted : (db.allowedDomains.rows.length == 0) = false := by simpa using listed
  simp only [Db.allows, counted, Bool.false_or, Option.any_eq_true, lists_iff]

theorem hostless_iff : Hostless url ↔ hostOf url = none := by
  rw [hostOf_eq]
  cases text : (afterScheme url.toList).getD url.toList with
  | nil => simp [Hostless, text]
  | cons head rest =>
      cases stop : Uri.delimits head <;> simp [Hostless, text, stop]

theorem hostOf_plain {uri : Uri} (parsed : Uri.parse url.toList = some uri) {host : String}
    (found : hostOf url = some host) : host = String.ofList uri.host ↔ uri.Leads := by
  obtain ⟨⟨scheme, rest⟩, split, rfl⟩ := Option.map_eq_some_iff.mp parsed
  have after : (afterScheme url.toList).getD url.toList = rest := by
    rw [afterScheme_eq, split]
    rfl
  rw [← (Uri.spells_ofParts scheme rest).leading_iff]
  rw [hostOf_eq, after] at found
  simp only at found
  split at found
  · cases found
  · cases found
    constructor
    · intro same
      simpa using congrArg String.toList same
    · intro same
      rw [same]

theorem allows_listed (db : Db) (listed : db.allowedDomains.rows ≠ []) (plain : Plain url)
    (allowed : db.allows (some url) = true) : db.LeadsInside url := by
  obtain ⟨uri, parsed, web, leads⟩ := plain
  obtain ⟨host, found, onList⟩ := (allows_iff listed).mp allowed
  refine ⟨uri, parsed, web, ?_⟩
  rwa [← (hostOf_plain parsed found).mpr leads]

def listing (host : String) : Db :=
  { Db.empty with allowedDomains := ⟨[⟨"dom_1", host, 0⟩], List.pairwise_singleton _ _⟩ }

theorem lists_listing {host other : String} : (listing host).Lists other ↔ host = other := by
  simp [lists_iff, listing]

/-- What is accepted leads to a host on the list, for every list, exactly when
nothing is accepted for want of a host or the URL is plain. -/
theorem keeps_iff (url : String) :
    (∀ db : Db, db.allowedDomains.rows ≠ [] → Accepts db url → db.LeadsInside url) ↔
      Hostless url ∨ Plain url := by
  constructor
  · intro sound
    cases found : hostOf url with
    | none => exact .inl (hostless_iff.mpr found)
    | some host =>
        have listed : (listing host).allowedDomains.rows ≠ [] := List.cons_ne_nil _ _
        have accepted : Accepts (listing host) url :=
          accepts_iff.mpr ((allows_iff listed).mpr ⟨host, found, lists_listing.mpr rfl⟩)
        obtain ⟨uri, parsed, web, onList⟩ := sound _ listed accepted
        exact .inr ⟨uri, parsed, web, (hostOf_plain parsed found).mp (lists_listing.mp onList)⟩
  · rintro (hostless | plain) db listed accepted
    · obtain ⟨host, found, _⟩ := (allows_iff listed).mp (accepts_iff.mp accepted)
      rw [hostless_iff.mp hostless] at found
      cases found
    · exact allows_listed db listed plain (accepts_iff.mp accepted)

end Domain

/-! ## Checkouts -/

namespace Checkout

variable {baseUrl : String} {uuids : CheckoutUuids} {req : CreateCheckout} {db after : Db}

theorem runs_urlsAllowed {outcome : Except SqlError Bool}
    (runs : sqlite.Runs (urlsAllowed req).run db outcome after) :
    outcome = .ok (db.allows req.returnUrl && db.allows req.webhookUrl) ∧ after = db := by
  rcases runs_bind_cases runs with ⟨allowed, middle, first, rest⟩ | ⟨failure, first, _⟩
  · obtain ⟨answered, rfl⟩ := Domain.runs_isAllowed first
    obtain rfl := Except.ok.inj answered
    cases returns : middle.allows req.returnUrl with
    | false =>
        rw [returns] at rest
        exact Machine.runs_done_iff.mp rest
    | true =>
        rw [returns] at rest
        exact Domain.runs_isAllowed rest
  · cases (Domain.runs_isAllowed first).1

theorem runs_adapt_urlsAllowed {allowed : Except CheckoutError Bool}
    (runs : sqlite.Runs ((urlsAllowed req).adapt CheckoutError.db).run db allowed after) :
    allowed = .ok (db.allows req.returnUrl && db.allows req.webhookUrl) ∧ after = db := by
  rw [run_adapt] at runs
  obtain ⟨looked, last, looking, converted⟩ := Machine.runs_bind_iff.mp runs
  obtain ⟨rfl, rfl⟩ := runs_urlsAllowed looking
  exact Machine.runs_done_iff.mp converted

/-- A checkout is refused without effect, or both URLs are allowed and its charge
is inserted. -/
theorem opening_of_runs {outcome : Except CheckoutError CheckoutCreated}
    (runs : sqlite.Runs (createCheckout baseUrl uuids req).run db outcome after) :
    (∃ error, outcome = .error error) ∧ after = db ∨
      db.allows req.returnUrl = true ∧ db.allows req.webhookUrl = true ∧
      ∃ now positive charges,
        db.charges.insert? ((newCharge uuids req).row now positive) = some charges ∧
        after = { db with charges } := by
  unfold createCheckout at runs
  split at runs
  · obtain ⟨rfl, rfl⟩ := Machine.runs_done_iff.mp runs
    exact .inl ⟨⟨_, rfl⟩, rfl⟩
  · have rest := runs_bind_of_ends runs_adapt_urlsAllowed runs
    cases both : db.allows req.returnUrl && db.allows req.webhookUrl with
    | false =>
        rw [both] at rest
        obtain ⟨rfl, rfl⟩ := Machine.runs_done_iff.mp rest
        exact .inl ⟨⟨_, rfl⟩, rfl⟩
    | true =>
        obtain ⟨returns, notifies⟩ := Bool.and_eq_true_iff.mp both
        rw [both] at rest
        rcases runs_bind_cases rest with ⟨answer, last, insert, finish⟩ | ⟨failure, insert, rfl⟩
        · obtain ⟨env, executed⟩ := runs_query_ok insert
          obtain ⟨_, rfl⟩ := Machine.runs_done_iff.mp finish
          obtain ⟨positive, charges, stored, rfl⟩ :=
            Db.insertCharge_ok (Statement.stored_ok executed)
          exact .inr ⟨returns, notifies, env.now, positive, charges, stored, rfl⟩
        · refine .inl ⟨⟨_, rfl⟩, ?_⟩
          obtain ⟨env, finish⟩ := Machine.runs_stmt_iff.mp insert
          cases executed : sqlite.exec env (.insertCharge (newCharge uuids req)) db with
          | ok result =>
              rw [Machine.apply_ok executed] at finish
              cases (Machine.runs_done_iff.mp finish).1
          | error error =>
              rw [Machine.apply_error executed] at finish
              exact (Machine.runs_done_iff.mp finish).2

end Checkout

/-- The URLs of a charge, which browsers are sent to and notifications are posted to. -/
def Charge.urls (charge : Charge) : List String :=
  charge.returnUrl.toList ++ charge.webhookUrl.toList ++ charge.callbackUrl.toList

/-- Where the list is not empty, what `is_allowed` accepts leads to a host on the
list exactly for the URLs that are hostless or plain; and a checkout whose URLs
are, stores only URLs that lead to hosts on the list. -/
theorem whitelist_keeps_plain (url : String) :
    ((∀ db : Db, db.allowedDomains.rows ≠ [] → Domain.Accepts db url → db.LeadsInside url) ↔
      Domain.Hostless url ∨ Domain.Plain url) ∧
    ∀ baseUrl uuids (req : CreateCheckout) (db after : Db) created,
      db.allowedDomains.rows ≠ [] →
      (∀ given ∈ req.returnUrl.toList ++ req.webhookUrl.toList,
        Domain.Hostless given ∨ Domain.Plain given) →
      sqlite.Runs (Checkout.createCheckout baseUrl uuids req).run db (.ok created) after →
      ∀ charge ∈ after.charges, charge ∉ db.charges →
        ∀ stored ∈ charge.urls, db.LeadsInside stored := by
  refine ⟨Domain.keeps_iff url, ?_⟩
  intro baseUrl uuids req db after created listed fit runs charge member new stored storedMember
  rcases Checkout.opening_of_runs runs with
    ⟨⟨error, never⟩, _⟩ | ⟨returns, notifies, now, positive, charges, inserted, rfl⟩
  · cases never
  rcases (Table.mem_insert? inserted).mp member with old | rfl
  · exact absurd old new
  have given : stored ∈ req.returnUrl.toList ++ req.webhookUrl.toList := by
    simpa [Charge.urls, NewCharge.row, Checkout.newCharge] using storedMember
  have allowed : db.allows (some stored) = true := by
    rcases List.mem_append.mp given with isReturn | isWebhook
    · rw [← Option.mem_toList.mp isReturn]
      exact returns
    · rw [← Option.mem_toList.mp isWebhook]
      exact notifies
  exact (Domain.keeps_iff stored).mpr (fit stored given) db listed (Domain.accepts_iff.mpr allowed)

theorem whitelist_keeps_plain_sample : Domain.Plain "https://shop.example.com/thanks" ∧
    (Domain.listing "shop.example.com").LeadsInside "https://shop.example.com/thanks" := by
  have plain : Domain.Plain "https://shop.example.com/thanks" :=
    ⟨⟨"https".toList, none, "shop.example.com".toList, none, "/thanks".toList⟩, by decide +kernel,
      by decide +kernel, by decide +kernel, by simp⟩
  refine ⟨plain, (whitelist_keeps_plain _).1.mpr (.inr plain) _ (List.cons_ne_nil _ _) ?_⟩
  exact Domain.accepts_iff.mpr (by decide +kernel)

/-- A password that ends the name the list is asked about, before the host. -/
def disguised : String := "https://good.com:x@evil.com/"

theorem disguised_host_accepted :
    (Domain.listing "good.com").allowedDomains.rows ≠ [] ∧
      Domain.Accepts (Domain.listing "good.com") disguised ∧
      (Uri.parse disguised.toList).map (·.host) = some "evil.com".toList ∧
      ¬(Domain.listing "good.com").LeadsInside disguised := by
  have host : (Uri.parse disguised.toList).map (·.host) = some "evil.com".toList := by
    decide +kernel
  refine ⟨List.cons_ne_nil _ _, Domain.accepts_iff.mpr (by decide +kernel), host, ?_⟩
  rintro ⟨uri, parsed, _, onList⟩
  rw [parsed] at host
  have evil : uri.host = "evil.com".toList := Option.some.inj host
  rw [evil, Domain.lists_listing] at onList
  exact absurd onList (by decide +kernel)

end SpritexPay
