import Mathlib.Data.List.TakeWhile

/-! Hierarchical URLs in the words of RFC 3986: a scheme, an authority that ends
at the first '/', '?' or '#', and in the authority the userinfo up to its last
'@' and the port. -/

set_option autoImplicit false

namespace SpritexPay

structure Uri where
  scheme : List Char
  userinfo : Option (List Char)
  host : List Char
  port : Option (List Char)
  /-- The path, the query and the fragment. -/
  tail : List Char
  deriving DecidableEq, Repr

namespace Uri

/-- The texts before and after the first "://". -/
def splitScheme : List Char → Option (List Char × List Char)
  | [] => none
  | ':' :: '/' :: '/' :: rest => some ([], rest)
  | head :: rest => (splitScheme rest).map fun (scheme, after) => (head :: scheme, after)

/-- The texts before and after the last of the separators. -/
def splitLast (separator : Char) : List Char → Option (List Char × List Char)
  | [] => none
  | head :: rest =>
      match splitLast separator rest with
      | some (before, after) => some (head :: before, after)
      | none => if head = separator then some ([], rest) else none

def endsAuthority (char : Char) : Bool := char == '/' || char == '?' || char == '#'

def splitUserinfo (authority : List Char) : Option (List Char) × List Char :=
  match splitLast '@' authority with
  | some (userinfo, named) => (some userinfo, named)
  | none => (none, authority)

def splitPort (named : List Char) : List Char × Option (List Char) :=
  match splitLast ':' named with
  | some (host, port) => if port.all Char.isDigit then (host, some port) else (named, none)
  | none => (named, none)

def ofParts (scheme rest : List Char) : Uri :=
  let (userinfo, named) := splitUserinfo (rest.takeWhile fun char => !endsAuthority char)
  let (host, port) := splitPort named
  { scheme, userinfo, host, port, tail := rest.dropWhile fun char => !endsAuthority char }

def parse (url : List Char) : Option Uri :=
  (splitScheme url).map fun (scheme, rest) => ofParts scheme rest

/-- The scheme is http or https, which does not depend on case. -/
def isWeb (uri : Uri) : Bool :=
  let scheme := String.ofList (uri.scheme.map Char.toLower)
  scheme == "http" || scheme == "https"

/-! ## What the parts are -/

def authority (uri : Uri) : List Char :=
  uri.userinfo.elim [] (· ++ ['@']) ++ uri.host ++ uri.port.elim [] (':' :: ·)

/-- The parts make up the text after the scheme, and the tail starts where the
authority ends. -/
structure Spells (uri : Uri) (rest : List Char) : Prop where
  text : uri.authority ++ uri.tail = rest
  authority : ∀ char ∈ uri.authority, endsAuthority char = false
  tail : ∀ char ∈ uri.tail.head?, endsAuthority char = true
  host : '@' ∉ uri.host
  port : ∀ port ∈ uri.port, port.all Char.isDigit = true

theorem splitLast_eq_none {separator : Char} {text : List Char}
    (missing : splitLast separator text = none) : separator ∉ text := by
  induction text with
  | nil => exact List.not_mem_nil
  | cons head rest ih =>
      unfold splitLast at missing
      cases later : splitLast separator rest with
      | some parts =>
          rw [later] at missing
          cases missing
      | none =>
          rw [later] at missing
          by_cases same : head = separator
          · simp [same] at missing
          · intro member
            rcases List.mem_cons.mp member with rfl | inRest
            · exact same rfl
            · exact ih later inRest

theorem splitLast_eq_some {separator : Char} {text before after : List Char}
    (found : splitLast separator text = some (before, after)) :
    text = before ++ separator :: after ∧ separator ∉ after := by
  induction text generalizing before with
  | nil => cases found
  | cons head rest ih =>
      unfold splitLast at found
      cases later : splitLast separator rest with
      | some parts =>
          rw [later] at found
          cases found
          obtain ⟨same, last⟩ := ih later
          exact ⟨congrArg (head :: ·) same, last⟩
      | none =>
          rw [later] at found
          by_cases same : head = separator
          · simp only [same, if_true, Option.some.injEq, Prod.mk.injEq] at found
            obtain ⟨rfl, rfl⟩ := found
            exact ⟨by rw [same]; rfl, splitLast_eq_none later⟩
          · simp [same] at found

theorem splitUserinfo_text (authority : List Char) :
    (splitUserinfo authority).1.elim [] (· ++ ['@']) ++ (splitUserinfo authority).2 = authority ∧
      '@' ∉ (splitUserinfo authority).2 := by
  unfold splitUserinfo
  split
  · rename_i userinfo named found
    obtain ⟨same, last⟩ := splitLast_eq_some found
    exact ⟨by simp [same], last⟩
  · rename_i missing
    exact ⟨rfl, splitLast_eq_none missing⟩

theorem splitPort_text (named : List Char) :
    (splitPort named).1 ++ (splitPort named).2.elim [] (':' :: ·) = named ∧
      ∀ port ∈ (splitPort named).2, port.all Char.isDigit = true := by
  unfold splitPort
  split
  · rename_i host port found
    split
    · rename_i digits
      refine ⟨(splitLast_eq_some found).1.symm, fun other member => ?_⟩
      cases member
      exact digits
    · exact ⟨List.append_nil _, by simp⟩
  · exact ⟨List.append_nil _, by simp⟩

theorem spells_ofParts (scheme rest : List Char) : (ofParts scheme rest).Spells rest := by
  have whole : rest.takeWhile (fun char => !endsAuthority char) ++
      rest.dropWhile (fun char => !endsAuthority char) = rest := List.takeWhile_append_dropWhile
  obtain ⟨userinfoText, unnamed⟩ :=
    splitUserinfo_text (rest.takeWhile fun char => !endsAuthority char)
  obtain ⟨portText, digits⟩ :=
    splitPort_text (splitUserinfo (rest.takeWhile fun char => !endsAuthority char)).2
  have spelled : (ofParts scheme rest).authority =
      rest.takeWhile fun char => !endsAuthority char := by
    refine Eq.trans ?_ userinfoText
    refine (List.append_assoc _ _ _).trans ?_
    exact congrArg _ portText
  constructor
  · rw [spelled]
    exact whole
  · intro char member
    rw [spelled] at member
    simpa using List.mem_takeWhile_imp member
  · intro char member
    have refused := List.head?_dropWhile_not (fun char => !endsAuthority char) rest
    rw [show (rest.dropWhile fun char => !endsAuthority char).head? = some char from member]
      at refused
    simpa using refused
  · intro member
    refine unnamed ?_
    rw [← portText]
    exact List.mem_append_left _ member
  · exact digits

/-! ## The text a URL begins with -/

def delimits (char : Char) : Bool := char == ':' || char == '/'

/-- What stands before the first ':' or '/' is the host: there is no userinfo, or
it begins with the host itself. -/
def Leads (uri : Uri) : Prop :=
  match uri.userinfo with
  | none => ':' ∉ uri.host ∧ (uri.port = none → ∀ char ∈ uri.tail.head?, char = '/')
  | some userinfo => ':' ∈ userinfo ∧ userinfo.takeWhile (· != ':') = uri.host

theorem takeWhile_append_of_mem {passes : Char → Bool} {before after : List Char} {char : Char}
    (member : char ∈ before) (stop : passes char = false) :
    (before ++ after).takeWhile passes = before.takeWhile passes := by
  induction before with
  | nil => cases member
  | cons head rest ih =>
      cases passing : passes head with
      | false => simp [passing]
      | true =>
          have later : char ∈ rest := by
            rcases List.mem_cons.mp member with rfl | later
            · rw [passing] at stop
              cases stop
            · exact later
          simp [passing, ih later]

theorem takeWhile_congr {left right : Char → Bool} {text : List Char}
    (same : ∀ char ∈ text, left char = right char) :
    text.takeWhile left = text.takeWhile right := by
  induction text with
  | nil => rfl
  | cons head rest ih =>
      rw [List.takeWhile_cons, List.takeWhile_cons, same head List.mem_cons_self,
        ih fun char member => same char (List.mem_cons_of_mem _ member)]

theorem not_delimits {text : List Char} (slash : ∀ char ∈ text, char ≠ '/')
    (colon : ':' ∉ text) : ∀ char ∈ text, (!delimits char) = true := by
  intro char member
  have noSlash := slash char member
  have noColon : char ≠ ':' := fun same => colon (same ▸ member)
  simp [delimits, noSlash, noColon]

theorem Spells.leading_iff {uri : Uri} {rest : List Char} (spells : uri.Spells rest) :
    (rest.takeWhile fun char => !delimits char) = uri.host ↔ uri.Leads := by
  obtain ⟨text, inside, tail, host, _⟩ := spells
  have apart : ∀ char ∈ uri.authority, char ≠ '/' := by
    rintro _ member rfl
    cases inside _ member
  unfold Leads
  unfold Uri.authority at text apart
  cases info : uri.userinfo with
  | some userinfo =>
      rw [info] at text apart
      simp only [Option.elim_some, List.append_assoc, List.cons_append, List.nil_append] at text
      simp only
      by_cases colon : ':' ∈ userinfo
      · have cut : userinfo.takeWhile (fun char => !delimits char) =
            userinfo.takeWhile (· != ':') := by
          refine takeWhile_congr fun char member => ?_
          have other : (char == '/') = false := by simpa using apart char (by simp [member])
          simp only [delimits, other, Bool.or_false, bne]
        rw [← text, takeWhile_append_of_mem colon rfl, cut]
        simp [colon]
      · have all := not_delimits (fun char member => apart char (by simp [member])) colon
        rw [← text, List.takeWhile_append_of_pos all]
        simp only [colon, false_and, iff_false]
        intro same
        refine host ?_
        rw [← same]
        simp [delimits]
  | none =>
      rw [info] at text apart
      simp only [Option.elim_none, List.nil_append, List.append_assoc] at text
      simp only
      by_cases colon : ':' ∈ uri.host
      · rw [← text, takeWhile_append_of_mem colon rfl]
        simp only [colon, not_true_eq_false, false_and, iff_false]
        intro same
        rw [← same] at colon
        cases List.mem_takeWhile_imp colon
      · have all := not_delimits (fun char member => apart char (by simp [member])) colon
        rw [← text, List.takeWhile_append_of_pos all]
        simp only [colon, not_false_eq_true, true_and, List.append_right_eq_self]
        cases ported : uri.port with
        | some port => simp [delimits]
        | none =>
            simp only [Option.elim_none, List.nil_append, true_implies]
            cases following : uri.tail with
            | nil => simp
            | cons head rest =>
                have ends := tail head (by simp [following])
                by_cases slash : head = '/'
                · simp [slash, delimits]
                · have noColon : head ≠ ':' := by
                    rintro rfl
                    cases ends
                  simp [slash, noColon, delimits]

end Uri

end SpritexPay
