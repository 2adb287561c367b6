import PrivacyMapping.Oscal.Pending
import Mathlib.Data.List.Basic

/-!
# The latest of several entries

The value that a list of entries gives to a name is that of the last entry of the name. The lemmas
follow it entry by entry, from the first one on, as a write does.

Setting a value replaces this last entry in its place, or puts one at the end (`ReplacesLast`). So a
run of settings gives a name the value of its latest setting (`get?_setAll`), and leaves every entry
where it is (`Retains`).
-/

namespace PrivacyMapping.Oscal

/-- The value of the last entry of a name. -/
def latest? (entries : List (String × String)) (name : String) : Option String :=
  (entries.reverse.find? (·.1 == name)).map (·.2)

/-- The names of pending values, in the order of the entries. -/
def Pending.names (pending : Pending) : List String :=
  pending.entries.map (·.1)

theorem Pending.get?_eq_latest? (pending : Pending) (name : String) :
    pending.get? name = latest? pending.entries name := rfl

@[simp]
theorem latest?_nil (name : String) : latest? [] name = none := rfl

theorem latest?_cons (entry : String × String) (entries : List (String × String)) (name : String) :
    latest? (entry :: entries) name =
      (latest? entries name).or (if entry.1 = name then some entry.2 else none) := by
  rw [latest?, List.reverse_cons, List.find?_append, Option.map_or, ← latest?]
  by_cases h : entry.1 = name <;> simp [h]

theorem latest?_eq_none_iff {entries : List (String × String)} {name : String} :
    latest? entries name = none ↔ name ∉ entries.map (·.1) := by
  induction entries with
  | nil => simp
  | cons entry rest ih =>
    rw [latest?_cons, Option.or_eq_none_iff, ih]
    by_cases h : entry.1 = name
    · simp [h]
    · simp [h, Ne.symm h]

theorem latest?_append (front back : List (String × String)) (name : String) :
    latest? (front ++ back) name = (latest? back name).or (latest? front name) := by
  induction front with
  | nil => simp
  | cons entry rest ih =>
    rw [List.cons_append, latest?_cons, latest?_cons, ih]
    cases latest? back name <;> rfl

theorem latest?_of_last {back : List (String × String)} {name : String}
    (last : name ∉ back.map (·.1)) (front : List (String × String)) (value : String) :
    latest? (front ++ (name, value) :: back) name = some value := by
  rw [latest?_append, latest?_cons, latest?_eq_none_iff.2 last]
  simp

theorem latest?_filter (p : String → Bool) (entries : List (String × String)) (name : String) :
    latest? (entries.filter fun entry => p entry.1) name =
      if p name then latest? entries name else none := by
  induction entries with
  | nil => simp
  | cons entry rest ih =>
    by_cases h : entry.1 = name
    · subst h
      by_cases hp : p entry.1 <;> simp [latest?_cons, ih, hp]
    · by_cases hp : p entry.1 <;> simp [latest?_cons, ih, hp, h]

theorem Pending.get?_eq_none_iff {pending : Pending} {name : String} :
    pending.get? name = none ↔ name ∉ pending.names :=
  latest?_eq_none_iff

/-! ## Another value for the last entry -/

/-- The list after has another value than the list before for the last entry of the name, or an entry
of the name at the end if there was none. -/
inductive ReplacesLast (name value : String) :
    List (String × String) → List (String × String) → Prop
  | inPlace {front back : List (String × String)} {old : String} (last : name ∉ back.map (·.1)) :
      ReplacesLast name value (front ++ (name, old) :: back) (front ++ (name, value) :: back)
  | atEnd {entries : List (String × String)} (absent : name ∉ entries.map (·.1)) :
      ReplacesLast name value entries (entries ++ [(name, value)])

theorem all_ne_iff_not_mem {name : String} {entries : List (String × String)} :
    (entries.all fun entry => entry.1 != name) = true ↔ name ∉ entries.map (·.1) := by
  rw [List.all_eq_true]
  constructor
  · intro others hname
    obtain ⟨entry, hentry, rfl⟩ := List.mem_map.1 hname
    simpa using others entry hentry
  · intro absent entry hentry
    rw [bne_iff_ne]
    rintro rfl
    exact absent (List.mem_map_of_mem hentry)

theorem replacesLast_setLast (name value : String) (entries : List (String × String)) :
    ReplacesLast name value entries (Pending.setLast name value entries) := by
  induction entries with
  | nil => exact .atEnd List.not_mem_nil
  | cons entry rest ih =>
    rw [Pending.setLast]
    split
    · next h =>
      obtain ⟨rfl, last⟩ := h
      exact @ReplacesLast.inPlace entry.1 value [] rest entry.2 (all_ne_iff_not_mem.1 last)
    · next h =>
      generalize Pending.setLast name value rest = after at ih
      cases ih with
      | @inPlace front back old last =>
        exact @ReplacesLast.inPlace name value (entry :: front) back old last
      | atEnd absent =>
        -- no later entry has the name, so this one cannot have it either
        have other : name ≠ entry.1 := fun same => h ⟨same.symm, all_ne_iff_not_mem.2 absent⟩
        have fresh : name ∉ (entry :: rest).map (·.1) := by
          rw [List.map_cons, List.mem_cons, not_or]
          exact ⟨other, absent⟩
        exact .atEnd fresh

namespace ReplacesLast

variable {name value : String} {before after : List (String × String)}

theorem latest?_self (h : ReplacesLast name value before after) : latest? after name = some value := by
  cases h with
  | inPlace last => exact latest?_of_last last _ value
  | atEnd absent => exact latest?_of_last List.not_mem_nil before value

theorem latest?_of_ne (h : ReplacesLast name value before after) {other : String}
    (hne : other ≠ name) : latest? after other = latest? before other := by
  cases h with
  | inPlace last =>
    simp only [latest?_append, latest?_cons, if_neg hne.symm]
  | atEnd absent =>
    simp only [latest?_append, latest?_cons, if_neg hne.symm, latest?_nil, Option.none_or]

theorem names_of_mem (h : ReplacesLast name value before after) (present : name ∈ before.map (·.1)) :
    after.map (·.1) = before.map (·.1) := by
  cases h with
  | inPlace last => simp
  | atEnd absent => exact absurd present absent

theorem eq_append_of_not_mem (h : ReplacesLast name value before after)
    (absent : name ∉ before.map (·.1)) : after = before ++ [(name, value)] := by
  cases h with
  | inPlace last => simp at absent
  | atEnd absent => rfl

theorem getElem?_eq (h : ReplacesLast name value before after) {i : Nat} {other old : String}
    (hentry : before[i]? = some (other, old)) :
    after[i]? = some (other, old) ∨
      after[i]? = some (other, value) ∧ other = name ∧ other ∉ (before.map (·.1)).drop (i + 1) := by
  cases h with
  | @inPlace front back old' last =>
    rcases Nat.lt_trichotomy i front.length with before_it | rfl | behind_it
    · left
      rw [List.getElem?_append_left before_it] at hentry ⊢
      exact hentry
    · right
      rw [List.getElem?_append_right (Nat.le_refl _), Nat.sub_self, List.getElem?_cons_zero] at hentry ⊢
      obtain ⟨rfl, rfl⟩ := Prod.mk.inj (Option.some.inj hentry)
      have behind : ((front ++ (name, old') :: back).map (·.1)).drop (front.length + 1) =
          back.map (·.1) := by
        rw [List.map_append, List.drop_append, List.drop_eq_nil_of_le (by simp), List.length_map,
          Nat.add_sub_cancel_left]
        rfl
      rw [behind]
      exact ⟨rfl, rfl, last⟩
    · left
      obtain ⟨k, rfl⟩ := Nat.exists_eq_add_of_lt behind_it
      rw [List.getElem?_append_right (by omega)] at hentry ⊢
      have place : front.length + k + 1 - front.length = k + 1 := by omega
      rw [place, List.getElem?_cons_succ] at hentry ⊢
      exact hentry
  | atEnd absent =>
    left
    rw [List.getElem?_append_left (List.getElem?_eq_some_iff.1 hentry).1]
    exact hentry

end ReplacesLast

/-! ## Settings -/

namespace Pending

theorem get?_set (pending : Pending) (name value other : String) :
    (pending.set name value).get? other = if name = other then some value else pending.get? other := by
  have replaced := replacesLast_setLast name value pending.entries
  split
  · next same => exact same ▸ replaced.latest?_self
  · next differs => exact replaced.latest?_of_ne (Ne.symm differs)

theorem names_set_of_mem {pending : Pending} {name : String} (present : name ∈ pending.names)
    (value : String) : (pending.set name value).names = pending.names :=
  (replacesLast_setLast name value pending.entries).names_of_mem present

theorem entries_set_of_not_mem {pending : Pending} {name : String} (absent : name ∉ pending.names)
    (value : String) : (pending.set name value).entries = pending.entries ++ [(name, value)] :=
  (replacesLast_setLast name value pending.entries).eq_append_of_not_mem absent

/-- Values set one after the other. -/
def setAll (pending : Pending) (settings : List (String × String)) : Pending :=
  settings.foldl (fun pending setting => pending.set setting.1 setting.2) pending

/-- After a run of settings a name has the value of its latest setting, and its value from before if
it was not set. -/
theorem get?_setAll (pending : Pending) (settings : List (String × String)) (name : String) :
    (pending.setAll settings).get? name = (latest? settings name).or (pending.get? name) := by
  induction settings generalizing pending with
  | nil => rfl
  | cons setting rest ih =>
    have step : pending.setAll (setting :: rest) = (pending.set setting.1 setting.2).setAll rest := rfl
    rw [step, ih, get?_set, latest?_cons]
    cases latest? rest name with
    | some value => rfl
    | none => by_cases same : setting.1 = name <;> simp [same]

/-! ## What stays -/

/-- Nothing but settings of touched names lies between the pending values before and after: every entry
is in its place, with its value unless it was the last entry of a touched name, behind them stands at
most one new entry for each touched name that had none, and the skipped targets are the same. -/
structure Retains (touched : String → Prop) (before after : Pending) : Prop where
  inPlace : ∀ i name value, before.entries[i]? = some (name, value) →
    ∃ value', after.entries[i]? = some (name, value') ∧
      (value' = value ∨ touched name ∧ name ∉ before.names.drop (i + 1))
  added : ∃ names, after.names = before.names ++ names ∧ names.Nodup ∧
    ∀ name ∈ names, touched name ∧ name ∉ before.names
  skipped : after.skipped = before.skipped

theorem Retains.refl (touched : String → Prop) (pending : Pending) : Retains touched pending pending where
  inPlace _ _ value hentry := ⟨value, hentry, .inl rfl⟩
  added := ⟨[], by simp⟩
  skipped := rfl

theorem retains_set {touched : String → Prop} (pending : Pending) {name : String}
    (htouched : touched name) (value : String) : Retains touched pending (pending.set name value) := by
  constructor
  case inPlace =>
    intro i other old hentry
    rcases (replacesLast_setLast name value pending.entries).getElem?_eq hentry with
      kept | ⟨changed, rfl, last⟩
    · exact ⟨old, kept, .inl rfl⟩
    · exact ⟨value, changed, .inr ⟨htouched, last⟩⟩
  case added =>
    by_cases present : name ∈ pending.names
    · exact ⟨[], by rw [names_set_of_mem present, List.append_nil], by simp⟩
    · refine ⟨[name], ?_, by simp, ?_⟩
      · rw [names, entries_set_of_not_mem present, List.map_append]
        rfl
      · intro other hother
        obtain rfl := List.mem_singleton.1 hother
        exact ⟨htouched, present⟩
  case skipped => rfl

theorem Retains.trans {touched : String → Prop} {first second third : Pending}
    (h : Retains touched first second) (h' : Retains touched second third) :
    Retains touched first third := by
  obtain ⟨fresh, hnames, hfresh, touchedFresh⟩ := h.added
  obtain ⟨later, hnames', hlater, touchedLater⟩ := h'.added
  constructor
  case inPlace =>
    intro i name value hentry
    obtain ⟨value', hentry', same⟩ := h.inPlace i name value hentry
    obtain ⟨value'', hentry'', same'⟩ := h'.inPlace i name value' hentry'
    refine ⟨value'', hentry'', ?_⟩
    rcases same' with rfl | ⟨htouched, last⟩
    · exact same
    · -- the last entry of a name in the longer list that stands in the shorter one is the last one there
      right
      refine ⟨htouched, fun hname => last ?_⟩
      rw [hnames, List.drop_append]
      exact List.mem_append_left _ hname
  case added =>
    refine ⟨fresh ++ later, by rw [hnames', hnames, List.append_assoc], ?_, ?_⟩
    · refine List.nodup_append.2 ⟨hfresh, hlater, ?_⟩
      rintro name hname _ hname' rfl
      have absent := (touchedLater name hname').2
      rw [hnames] at absent
      exact absent (List.mem_append_right _ hname)
    · intro name hname
      rcases List.mem_append.1 hname with hname | hname
      · exact touchedFresh name hname
      · obtain ⟨htouched, absent⟩ := touchedLater name hname
        rw [hnames] at absent
        exact ⟨htouched, fun present => absent (List.mem_append_left _ present)⟩
  case skipped => exact h'.skipped.trans h.skipped

end Pending

end PrivacyMapping.Oscal
