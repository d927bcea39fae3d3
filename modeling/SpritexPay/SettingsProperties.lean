import SpritexPay.Settings

/-! The settings as a map, and its groups. A key is found by the text of its
group read as a pattern, which that text matches itself, but not alone. -/

set_option autoImplicit false

namespace SpritexPay.Settings

open Relational Textual

/-- A call of `settings::set`. -/
structure SetCall where
  now : Timestamp
  key : String
  value : String

/-- The table after the calls, newest first. -/
def stored : List SetCall → Table SettingRow
  | [] => ∅
  | call :: earlier => set call.now call.key call.value (stored earlier)

def latest (calls : List SetCall) (key : String) : Option String :=
  (calls.find? (·.key == key)).map (·.value)

theorem latest_cons (call : SetCall) (earlier : List SetCall) (key : String) :
    latest (call :: earlier) key =
      if call.key = key then some call.value else latest earlier key := by
  by_cases same : call.key = key <;> simp [latest, same]

theorem exists_latest_iff {calls : List SetCall} {key : String} :
    (∃ value, latest calls key = some value) ↔ ∃ call ∈ calls, call.key = key := by
  rw [← Option.isSome_iff_exists, latest, Option.isSome_map, List.find?_isSome]
  simp only [beq_iff_eq]

/-! ## Rows -/

def Holds (settings : Table SettingRow) (setting : Setting) : Prop :=
  ∃ row ∈ settings, row.toSetting = setting

section Rows

variable {settings : Table SettingRow} {now : Timestamp} {key value : String} {setting : Setting}

theorem holds_set : Holds (set now key value settings) setting ↔
    setting = ⟨key, some value⟩ ∨ setting.key ≠ key ∧ Holds settings setting := by
  unfold set
  split
  · rename_i inserted stored
    obtain ⟨_, fresh⟩ := Table.insert?_eq_some_iff.mp stored
    constructor
    · rintro ⟨row, member, rfl⟩
      rcases (Table.mem_insert? stored).mp member with old | rfl
      · exact .inr ⟨by simpa [Indexed.key, clash] using fresh row old, row, old, rfl⟩
      · exact .inl rfl
    · rintro (rfl | ⟨_, row, member, rfl⟩)
      · exact ⟨_, (Table.mem_insert? stored).mpr (.inr rfl), rfl⟩
      · exact ⟨row, (Table.mem_insert? stored).mpr (.inl member), rfl⟩
  · rename_i refused
    obtain ⟨taken, takenMember, clashes⟩ := Table.insert?_eq_none_iff.mp refused
    have same : taken.key = key := by simpa [Indexed.key, clash] using clashes
    constructor
    · rintro ⟨row, member, rfl⟩
      obtain ⟨old, oldMember, rfl⟩ := (Table.mem_update _).mp member
      split
      · rename_i chosen
        have own : old.key = key := by simpa using chosen
        exact .inl (by rw [← own])
      · rename_i unchosen
        exact .inr ⟨by simpa using unchosen, old, oldMember, rfl⟩
    · rintro (rfl | ⟨other, row, member, rfl⟩)
      · refine ⟨_, (Table.mem_update _).mpr ⟨taken, takenMember, rfl⟩, ?_⟩
        rw [if_pos (by simpa using same), ← same]
      · refine ⟨_, (Table.mem_update _).mpr ⟨row, member, rfl⟩, ?_⟩
        rw [if_neg (by simpa using other)]

end Rows

variable {calls : List SetCall}

theorem holds_stored {setting : Setting} : Holds (stored calls) setting ↔
    ∃ value, setting.value = some value ∧ latest calls setting.key = some value := by
  induction calls with
  | nil => simp [Holds, stored, latest]
  | cons call earlier ih =>
      rw [stored, holds_set, ih]
      simp only [latest_cons]
      constructor
      · rintro (rfl | ⟨other, value, kept, last⟩)
        · exact ⟨call.value, rfl, if_pos rfl⟩
        · exact ⟨value, kept, by rw [if_neg (Ne.symm other), last]⟩
      · rintro ⟨value, kept, last⟩
        split at last
        · rename_i same
          cases last
          exact .inl (by rw [same, ← kept])
        · rename_i other
          exact .inr ⟨Ne.symm other, value, kept, last⟩

theorem get_stored (calls : List SetCall) (key : String) :
    get (stored calls) key = latest calls key := by
  cases last : latest calls key with
  | none =>
      have absent : (stored calls).find? (·.key == key) = none := by
        refine List.find?_eq_none.mpr fun row member => ?_
        intro same
        obtain ⟨value, _, known⟩ := holds_stored.mp ⟨row, member, rfl⟩
        rw [beq_iff_eq.mp same, last] at known
        cases known
      rw [get, absent]
      rfl
  | some value =>
      have held : Holds (stored calls) ⟨key, some value⟩ := holds_stored.mpr ⟨value, rfl, last⟩
      obtain ⟨row, member, same⟩ := held
      have own : row.key = key := congrArg Setting.key same
      have found : (stored calls).find? (·.key == key) = some row := by
        refine Table.find?_eq_some_of_mem member (beq_iff_eq.mpr own) fun other _ named => ?_
        have alike : other.key = row.key := (beq_iff_eq.mp named).trans own.symm
        simp [Indexed.key, clash, alike]
      rw [get, found]
      exact congrArg Setting.value same

/-! ## Groups -/

/-- The key starts with the group and a point. -/
def InGroup (group key : String) : Prop := ∃ name, key = group ++ "." ++ name

/-- The settings of a group as the calls have left them, in key order. -/
structure ExactGroup (calls : List SetCall) (group : String) (listed : List Setting) : Prop where
  ordered : listed.Pairwise fun left right => left.key < right.key
  exact : ∀ setting, setting ∈ listed ↔ InGroup group setting.key ∧
    ∃ value, setting.value = some value ∧ latest calls setting.key = some value

theorem mem_getGroup {settings : Table SettingRow} {group : String} {setting : Setting} :
    setting ∈ getGroup settings group ↔ Holds settings setting ∧
      like (group ++ ".%").toList setting.key.toList = true := by
  rw [getGroup, List.mem_mergeSort, List.mem_map]
  constructor
  · rintro ⟨row, found, rfl⟩
    obtain ⟨member, matched⟩ := List.mem_filter.mp found
    exact ⟨⟨row, member, rfl⟩, matched⟩
  · rintro ⟨⟨row, member, rfl⟩, matched⟩
    exact ⟨row, List.mem_filter.mpr ⟨member, matched⟩, rfl⟩

theorem ordered_getGroup (settings : Table SettingRow) (group : String) :
    (getGroup settings group).Pairwise fun left right => left.key < right.key := by
  have apart : settings.rows.Pairwise fun left right => left.key ≠ right.key :=
    settings.distinct.imp fun differ => by simpa [Indexed.key, clash] using differ
  have distinct : (getGroup settings group).Pairwise fun left right => left.key ≠ right.key := by
    refine ((List.mergeSort_perm _ _).pairwise_iff fun differ => Ne.symm differ).mpr ?_
    exact List.pairwise_map.mpr (apart.filter _)
  have trans : ∀ left middle right : Setting, decide (left.key ≤ middle.key) = true →
      decide (middle.key ≤ right.key) = true → decide (left.key ≤ right.key) = true :=
    fun _ _ _ first second =>
      decide_eq_true (String.le_trans (of_decide_eq_true first) (of_decide_eq_true second))
  have total : ∀ left right : Setting,
      (decide (left.key ≤ right.key) || decide (right.key ≤ left.key)) = true :=
    fun left right => by simpa using String.le_total left.key right.key
  have sorted : (getGroup settings group).Pairwise fun left right => left.key ≤ right.key :=
    (List.pairwise_mergeSort trans total _).imp of_decide_eq_true
  refine sorted.imp₂ (fun left right below other => ?_) distinct
  exact String.not_le.mp fun above => other (String.le_antisymm below above)

/-- The pattern of a group finds the keys with a text before a point that the
text of the group stands for, when it is read as a pattern. -/
theorem like_group_iff {group key : String} :
    like (group ++ ".%").toList key.toList = true ↔
      ∃ stem name, key = stem ++ "." ++ name ∧ Spells group.toList stem.toList := by
  have pattern : (group ++ ".%").toList = group.toList ++ ['.', '%'] := String.toList_append
  rw [like_iff_spells, pattern, spells_append_iff]
  constructor
  · rintro ⟨first, second, whole, begins, ends⟩
    obtain ⟨rest, rfl, _⟩ :=
      (spells_mark_iff (by decide) (by decide) (by decide) (by decide)).mp ends
    refine ⟨.ofList first, .ofList rest, String.toList_inj.mp ?_, ?_⟩
    · simp [whole]
    · rwa [String.toList_ofList]
  · rintro ⟨stem, name, rfl, begins⟩
    refine ⟨stem.toList, '.' :: name.toList, ?_, begins, ?_⟩
    · simp
    · exact .letter (by decide) (by decide) rfl (spells_any _)

theorem like_of_inGroup {group key : String} (inside : InGroup group key) :
    like (group ++ ".%").toList key.toList = true := by
  obtain ⟨name, rfl⟩ := inside
  exact like_group_iff.mpr ⟨group, name, rfl, spells_self _⟩

/-- The settings are a map with exact groups, as far as no key was set that only
reads like one of the group. -/
theorem map_with_exact_groups_iff {calls : List SetCall} {group : String} :
    ((∀ key, get (stored calls) key = latest calls key) ∧
      ExactGroup calls group (getGroup (stored calls) group)) ↔
    ∀ call ∈ calls, ∀ stem name, call.key = stem ++ "." ++ name →
      Spells group.toList stem.toList → InGroup group call.key := by
  constructor
  · rintro ⟨_, grouped⟩ call member stem name spelled spells
    obtain ⟨value, last⟩ := exists_latest_iff.mpr ⟨call, member, rfl⟩
    have held : Holds (stored calls) ⟨call.key, some value⟩ :=
      holds_stored.mpr ⟨value, rfl, last⟩
    have matched := like_group_iff.mpr ⟨stem, name, spelled, spells⟩
    exact ((grouped.exact _).mp (mem_getGroup.mpr ⟨held, matched⟩)).1
  · intro apart
    refine ⟨get_stored calls, ordered_getGroup _ _, fun setting => ?_⟩
    rw [mem_getGroup, holds_stored, and_comm]
    refine and_congr_left fun held => ⟨fun matched => ?_, like_of_inGroup⟩
    obtain ⟨value, _, last⟩ := held
    obtain ⟨call, member, same⟩ := exists_latest_iff.mp ⟨value, last⟩
    obtain ⟨stem, name, spelled, spells⟩ := like_group_iff.mp matched
    rw [← same] at spelled ⊢
    exact apart call member stem name spelled spells

/-- Another letter case is another group, but it is listed. -/
theorem foreign_setting_listed :
    getGroup (stored [⟨0, "Brand.name", "RexiO"⟩]) "brand" = [⟨"Brand.name", some "RexiO"⟩] ∧
    ¬ExactGroup [⟨0, "Brand.name", "RexiO"⟩] "brand"
      (getGroup (stored [⟨0, "Brand.name", "RexiO"⟩]) "brand") := by
  have listed : getGroup (stored [⟨0, "Brand.name", "RexiO"⟩]) "brand" =
      [⟨"Brand.name", some "RexiO"⟩] := by decide +kernel
  refine ⟨listed, fun grouped => ?_⟩
  rw [listed] at grouped
  obtain ⟨⟨name, key⟩, _⟩ := (grouped.exact _).mp List.mem_cons_self
  have first := congrArg (fun text => text.toList.head?) key
  simp at first

end SpritexPay.Settings
