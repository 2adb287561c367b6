import PrivacyMapping.Oscal.Writing
import PrivacyMapping.Proofs.Entries
import PrivacyMapping.Proofs.Oscal.Pending
import Mathlib.Data.List.Forall2

/-!
# What a write does to a list of properties

A list of properties is looked up by name, the first property of a name being the one that counts.
Seen this way a write puts the latest value of every name in place (`find?_foldl_put`), and this is so
for every test that knows a property by its name, whatever the test makes of items that are none.

Seen as a list, it splits (`foldl_put_append`): entries whose name some item already has only
overwrite (`overwrite`), and keep every item in its place; the other entries build up the tail of new
properties, one for each name in the order of first appearance (`foldl_put_nil`). `Filled` states
both parts without the functions that do the writing.
-/

namespace PrivacyMapping.Oscal

/-! ## Names of properties -/

/-- The item is an object with the string `name` as its name. -/
def Named (name : String) (item : Json) : Prop :=
  item.get? "name" = some (.str name)

theorem isNamed_iff {name : String} {item : Json} : isNamed name item = true ↔ Named name item := by
  unfold isNamed Named
  split
  · next s h => simp [h]
  · next h => exact ⟨by simp, fun named => absurd named (h name)⟩

theorem isNamed_eq_false_iff {name : String} {item : Json} :
    isNamed name item = false ↔ ¬ Named name item := by
  rw [← isNamed_iff, Bool.not_eq_true]

theorem Named.unique {first second : String} {item : Json} (h : Named first item)
    (h' : Named second item) : first = second := by
  have same := h.symm.trans h'
  simpa using same

theorem Named.exists_members {name : String} {item : Json} (h : Named name item) :
    ∃ members, item = .obj members := by
  cases item with
  | obj members => exact ⟨members, rfl⟩
  | _ => simp [Named, Json.get?] at h

@[simp]
theorem isNamed_newProperty (name other value : String) :
    isNamed other (newProperty name value) = (name == other) := by
  simp [isNamed, newProperty, Json.get?, Entries.get?, Bool.beq_eq_decide_eq]

@[simp]
theorem isNamed_withValue (name value : String) (item : Json) :
    isNamed name (withValue value item) = isNamed name item := by
  cases item with
  | obj members =>
    have key : (Entries.insert members "value" (.str value)).get? "name" = Entries.get? members "name" :=
      Entries.get?_insert_of_ne members _ (by decide)
    simp only [isNamed, withValue, Json.get?, key]
  | _ => rfl

/-! ## Values of properties -/

@[simp]
theorem withValue_withValue (first second : String) (item : Json) :
    withValue second (withValue first item) = withValue second item := by
  cases item with
  | obj members => simp only [withValue, Entries.insert_insert]
  | _ => rfl

@[simp]
theorem withValue_newProperty (name first second : String) :
    withValue second (newProperty name first) = newProperty name second := by
  simp [withValue, newProperty, Entries.insert]

theorem Named.get?_withValue {name : String} {item : Json} (h : Named name item) (value : String) :
    (withValue value item).get? "value" = some (.str value) := by
  obtain ⟨members, rfl⟩ := h.exists_members
  exact Entries.get?_insert_self members "value" (.str value)

/-! ## One entry -/

/-- The properties with the value of an entry for the first one of its name, which is added at the
end if there is none. -/
def put (items : List Json) (entry : String × String) : List Json :=
  (setFirst? entry.1 entry.2 items).getD (items ++ [newProperty entry.1 entry.2])

/-- The properties with the value of an entry for the first one of its name, if there is one. -/
def overwrite (items : List Json) (entry : String × String) : List Json :=
  (setFirst? entry.1 entry.2 items).getD items

theorem fst_writeEntry (state : List Json × Report) (entry : String × String) :
    (writeEntry state entry).1 = put state.1 entry := by
  unfold writeEntry put
  cases h : setFirst? entry.1 entry.2 state.1 <;> simp [h]

theorem fst_writeEntries (pending : Pending) (items : List Json) :
    (writeEntries pending items).1 = pending.entries.foldl put items := by
  rw [writeEntries]
  generalize ({ skipped := pending.skipped } : Report) = report
  induction pending.entries generalizing items report with
  | nil => rfl
  | cons entry rest ih =>
    rw [List.foldl_cons, List.foldl_cons, ← fst_writeEntry (items, report) entry]
    exact ih _ (writeEntry (items, report) entry).2

theorem getD_setFirst?_cons (name value : String) (item : Json) (rest tail : List Json) :
    (setFirst? name value (item :: rest)).getD (item :: tail) =
      if isNamed name item then withValue value item :: rest
      else item :: (setFirst? name value rest).getD tail := by
  rw [setFirst?]
  split
  · rfl
  · cases setFirst? name value rest <;> rfl

theorem put_cons (item : Json) (rest : List Json) (entry : String × String) :
    put (item :: rest) entry =
      if isNamed entry.1 item then withValue entry.2 item :: rest else item :: put rest entry :=
  getD_setFirst?_cons entry.1 entry.2 item rest (rest ++ [newProperty entry.1 entry.2])

theorem overwrite_cons (item : Json) (rest : List Json) (entry : String × String) :
    overwrite (item :: rest) entry =
      if isNamed entry.1 item then withValue entry.2 item :: rest
      else item :: overwrite rest entry :=
  getD_setFirst?_cons entry.1 entry.2 item rest rest

section invariants

variable {P : Json → Prop} (changed : ∀ item value, P item → P (withValue value item))
  (added : ∀ name value, P (newProperty name value)) {items : List Json} (h : ∀ item ∈ items, P item)

include changed added h

theorem forall_put (entry : String × String) : ∀ item ∈ put items entry, P item := by
  induction items with
  | nil =>
    have single : put [] entry = [newProperty entry.1 entry.2] := rfl
    rw [single, List.forall_mem_singleton]
    exact added entry.1 entry.2
  | cons first rest ih =>
    obtain ⟨hfirst, hrest⟩ := List.forall_mem_cons.1 h
    rw [put_cons]
    split
    · exact List.forall_mem_cons.2 ⟨changed first entry.2 hfirst, hrest⟩
    · exact List.forall_mem_cons.2 ⟨hfirst, ih hrest⟩

/-- What holds of new properties, and of an item whatever its value, holds of all items after a write
if it held of them before. -/
theorem forall_writeEntries (pending : Pending) : ∀ item ∈ (writeEntries pending items).1, P item := by
  rw [fst_writeEntries]
  induction pending.entries generalizing items with
  | nil => exact h
  | cons entry rest ih => exact ih (forall_put changed added h entry)

end invariants

/-! ## Lookup by name -/

/-- A test that an object with a string as its name passes if and only if that string is `name`. On
other items it may answer anything. -/
def Recognizes (name : String) (test : Json → Bool) : Prop :=
  ∀ other item, Named other item → test item = (other == name)

theorem recognizes_isNamed (name : String) : Recognizes name (isNamed name) := by
  intro other item named
  rw [Bool.eq_iff_iff, isNamed_iff, beq_iff_eq]
  constructor
  · intro named'
    exact named.unique named'
  · rintro rfl
    exact named

theorem named_newProperty (name value : String) : Named name (newProperty name value) :=
  isNamed_iff.1 (by simp)

theorem Named.named_withValue {name : String} {item : Json} (h : Named name item) (value : String) :
    Named name (withValue value item) :=
  isNamed_iff.1 (by rw [isNamed_withValue]; exact isNamed_iff.2 h)

/-- An item with another value if it is a property of the name, and the item as it is otherwise. -/
def settle (name value : String) (item : Json) : Json :=
  if isNamed name item then withValue value item else item

theorem settle_of_named {name : String} {item : Json} (h : Named name item) (value : String) :
    settle name value item = withValue value item :=
  if_pos (isNamed_iff.2 h)

theorem settle_of_not_named {name : String} {item : Json} (h : ¬ Named name item) (value : String) :
    settle name value item = item :=
  if_neg (mt isNamed_iff.1 h)

theorem settle_settle (name first second : String) (item : Json) :
    settle name second (settle name first item) = settle name second item := by
  by_cases h : Named name item
  · rw [settle_of_named h, settle_of_named (h.named_withValue first), settle_of_named h,
      withValue_withValue]
  · rw [settle_of_not_named h first]

section lookup

variable {name : String} {test : Json → Bool}

theorem find?_put (h : Recognizes name test) (items : List Json) (entry : String × String) :
    (put items entry).find? test =
      if entry.1 = name then
        some (((items.find? test).map (settle name entry.2)).getD (newProperty name entry.2))
      else items.find? test := by
  induction items with
  | nil =>
    have added : put [] entry = [newProperty entry.1 entry.2] := rfl
    rw [added, List.find?_singleton, h _ _ (named_newProperty entry.1 entry.2)]
    by_cases hname : entry.1 = name <;> simp [hname]
  | cons item rest ih =>
    rw [put_cons]
    by_cases hitem : Named entry.1 item
    · -- the entry ends here, and the test knows the item before and after by its name
      rw [if_pos (isNamed_iff.2 hitem), List.find?_cons, List.find?_cons, h _ _ hitem,
        h _ _ (hitem.named_withValue entry.2)]
      by_cases hname : entry.1 = name
      · subst hname
        simp [settle_of_named hitem]
      · rw [if_neg hname, beq_false_of_ne hname]
    · rw [if_neg (mt isNamed_iff.1 hitem), List.find?_cons, List.find?_cons, ih]
      by_cases hname : entry.1 = name
      · subst hname
        cases test item <;> simp [settle_of_not_named hitem]
      · cases test item <;> simp [hname]

/-- Entries written in turn leave the latest value of a name in the first item that is taken for a
property of the name, provided that it is one, and the first properties of all other names as they
were. -/
theorem find?_foldl_put (h : Recognizes name test) (entries : List (String × String))
    (items : List Json) :
    (entries.foldl put items).find? test =
      match latest? entries name with
      | some value =>
        some (((items.find? test).map (settle name value)).getD (newProperty name value))
      | none => items.find? test := by
  induction entries generalizing items with
  | nil => rfl
  | cons entry rest ih =>
    rw [List.foldl_cons, ih, latest?_cons, find?_put h]
    by_cases hname : entry.1 = name
    · subst hname
      have settled := settle_of_named (named_newProperty entry.1 entry.2)
      cases latest? rest entry.1 with
      | none => simp
      | some value => cases items.find? test <;> simp [settle_settle, settled]
    · cases latest? rest name <;> simp [hname]

end lookup

/-! ## Items that are there already -/

theorem any_overwrite (items : List Json) (entry : String × String) (name : String) :
    (overwrite items entry).any (isNamed name) = items.any (isNamed name) := by
  induction items with
  | nil => rfl
  | cons item rest ih =>
    rw [overwrite_cons]
    split
    · simp
    · simp [ih]

theorem overwrite_eq_self {items : List Json} {entry : String × String}
    (h : items.any (isNamed entry.1) = false) : overwrite items entry = items := by
  induction items with
  | nil => rfl
  | cons item rest ih =>
    rw [List.any_cons, Bool.or_eq_false_iff] at h
    rw [overwrite_cons, h.1, ih h.2]
    simp

theorem put_append (kept added : List Json) (entry : String × String) :
    put (kept ++ added) entry =
      if kept.any (isNamed entry.1) then overwrite kept entry ++ added
      else kept ++ put added entry := by
  induction kept with
  | nil => simp
  | cons item rest ih =>
    rw [List.cons_append, put_cons, overwrite_cons, ih, List.any_cons]
    by_cases h : isNamed entry.1 item = true
    · simp [h]
    · have unnamed : isNamed entry.1 item = false := by simpa using h
      rw [if_neg h, if_neg h, unnamed, Bool.false_or]
      split <;> simp

/-- Entries written into two parts: the first part takes those whose names it has, and as they change
no name in it, which ones it takes is known before the first is written. -/
theorem foldl_put_append (entries : List (String × String)) (kept added : List Json) :
    entries.foldl put (kept ++ added) =
      entries.foldl overwrite kept ++
        (entries.filter fun entry => !kept.any (isNamed entry.1)).foldl put added := by
  induction entries generalizing kept added with
  | nil => rfl
  | cons entry rest ih =>
    rw [List.foldl_cons, List.foldl_cons, put_append]
    by_cases h : kept.any (isNamed entry.1) = true
    · rw [if_pos h, ih]
      simp only [any_overwrite]
      rw [List.filter_cons_of_neg (by simp [h])]
    · rw [if_neg h, ih, overwrite_eq_self (by simpa using h),
        List.filter_cons_of_pos (by simpa using h), List.foldl_cons]

/-- An item with the latest value of its name, if it has a name with a value. -/
def revalue (entries : List (String × String)) (item : Json) : Json :=
  match item.get? "name" with
  | some (.str name) =>
    match latest? entries name with
    | some value => withValue value item
    | none => item
  | _ => item

theorem Named.revalue_eq {name : String} {item : Json} (h : Named name item)
    (entries : List (String × String)) :
    revalue entries item =
      match latest? entries name with
      | some value => withValue value item
      | none => item := by
  have key : item.get? "name" = some (.str name) := h
  simp only [revalue, key]

theorem revalue_eq_self {entries : List (String × String)} {item : Json}
    (h : ∀ name, Named name item → latest? entries name = none) : revalue entries item = item := by
  unfold revalue
  split
  · next name key => simp [h name key]
  · rfl

theorem revalue_cons (entry : String × String) (entries : List (String × String)) (item : Json) :
    revalue (entry :: entries) item =
      revalue entries (if isNamed entry.1 item then withValue entry.2 item else item) := by
  by_cases h : isNamed entry.1 item = true
  · have named := isNamed_iff.1 h
    rw [if_pos h, named.revalue_eq, (named.named_withValue entry.2).revalue_eq, latest?_cons, if_pos rfl]
    cases latest? entries entry.1 <;> simp
  · rw [if_neg h]
    unfold revalue
    split
    · next name key =>
      have hne : entry.1 ≠ name := fun same => h (isNamed_iff.2 (same ▸ key))
      simp [latest?_cons, hne]
    · rfl

theorem foldl_overwrite_cons (entries : List (String × String)) (item : Json) (rest : List Json) :
    entries.foldl overwrite (item :: rest) =
      revalue entries item ::
        (entries.filter fun entry => !isNamed entry.1 item).foldl overwrite rest := by
  induction entries generalizing item rest with
  | nil => rw [revalue_eq_self fun _ _ => latest?_nil _]; rfl
  | cons entry entries ih =>
    rw [List.foldl_cons, overwrite_cons, revalue_cons]
    by_cases h : isNamed entry.1 item = true
    · simp [h, ih]
    · simp [h, ih]

theorem foldl_overwrite_nil (entries : List (String × String)) :
    entries.foldl overwrite [] = [] := by
  induction entries with
  | nil => rfl
  | cons entry rest ih => exact ih

theorem length_foldl_overwrite (entries : List (String × String)) (items : List Json) :
    (entries.foldl overwrite items).length = items.length := by
  induction items generalizing entries with
  | nil => rw [foldl_overwrite_nil]
  | cons item rest ih => rw [foldl_overwrite_cons, List.length_cons, List.length_cons, ih]

/-- The item at place `i` is the first one of its name. -/
structure FirstNamed (name : String) (items : List Json) (i : Nat) (item : Json) : Prop where
  at_place : items[i]? = some item
  named : Named name item
  least : ∀ j < i, ∀ other, items[j]? = some other → ¬ Named name other

theorem firstNamed_cons_zero {name : String} {first item : Json} {rest : List Json} :
    FirstNamed name (first :: rest) 0 item ↔ first = item ∧ Named name item := by
  constructor
  · intro h
    exact ⟨by simpa using h.at_place, h.named⟩
  · rintro ⟨rfl, named⟩
    exact ⟨rfl, named, by simp⟩

theorem firstNamed_cons_succ {name : String} {first item : Json} {rest : List Json} {i : Nat} :
    FirstNamed name (first :: rest) (i + 1) item ↔
      ¬ Named name first ∧ FirstNamed name rest i item := by
  constructor
  · intro h
    refine ⟨h.least 0 (by omega) first rfl, h.at_place, h.named, ?_⟩
    intro j hj other hother
    exact h.least (j + 1) (by omega) other hother
  · rintro ⟨hfirst, at_place, named, least⟩
    refine ⟨at_place, named, ?_⟩
    intro j hj other hother
    cases j with
    | zero => simpa using (Option.some.inj hother) ▸ hfirst
    | succ j => exact least j (by omega) other hother

/-- What entries make of the item at a place: the first item of a name takes the latest value of the
name, and every other item stays as it is. -/
theorem getElem?_foldl_overwrite (entries : List (String × String)) {items : List Json} {i : Nat}
    {item : Json} (hitem : items[i]? = some item) :
    (∀ name value, FirstNamed name items i item → latest? entries name = some value →
      (entries.foldl overwrite items)[i]? = some (withValue value item)) ∧
    ((∀ name, FirstNamed name items i item → latest? entries name = none) →
      (entries.foldl overwrite items)[i]? = some item) := by
  induction items generalizing entries i with
  | nil => simp at hitem
  | cons first rest ih =>
    rw [foldl_overwrite_cons]
    cases i with
    | zero =>
      obtain rfl : first = item := by simpa using hitem
      refine ⟨fun name value h hvalue => ?_, fun h => ?_⟩
      · simp [h.named.revalue_eq, hvalue]
      · have stays : revalue entries first = first :=
          revalue_eq_self fun name named => h name (firstNamed_cons_zero.2 ⟨rfl, named⟩)
        simp [stays]
    | succ i =>
      -- the items behind `first` see only the entries that `first` leaves to them
      obtain ⟨taken, untouched⟩ := ih (entries.filter fun entry => !isNamed entry.1 first) hitem
      simp only [latest?_filter fun name => !isNamed name first] at taken untouched
      refine ⟨fun name value h hvalue => ?_, fun h => ?_⟩
      · obtain ⟨hfirst, hrest⟩ := firstNamed_cons_succ.1 h
        have unnamed := isNamed_eq_false_iff.2 hfirst
        exact taken name value hrest (by simp [unnamed, hvalue])
      · refine untouched fun name hrest => ?_
        by_cases hfirst : Named name first
        · simp [isNamed_iff.2 hfirst]
        · simp [h name (firstNamed_cons_succ.2 ⟨hfirst, hrest⟩)]

/-! ## Items that are new -/

/-- Entries written where no property is yet leave one property for each name, in the order in which
the names first appear. -/
theorem foldl_put_nil (entries : List (String × String)) :
    entries.foldl put [] =
      (entries.map (·.1)).eraseDups.map fun name =>
        newProperty name ((latest? entries name).getD "") := by
  match entries with
  | [] => rfl
  | (name, value) :: rest =>
    -- the first entry makes a property that takes all later entries of its name, so that the other
    -- entries are written as if it were not there
    have split := foldl_put_append rest [newProperty name value] []
    have head : rest.foldl overwrite [newProperty name value] =
        [newProperty name ((latest? ((name, value) :: rest) name).getD "")] := by
      rw [foldl_overwrite_cons, (named_newProperty name value).revalue_eq, latest?_cons, if_pos rfl, foldl_overwrite_nil]
      cases latest? rest name <;> simp
    have tail := foldl_put_nil (rest.filter fun entry => !entry.1 == name)
    have others : (rest.filter fun entry => !entry.1 == name).map (·.1) =
        (rest.map (·.1)).filter fun other => !other == name := by
      rw [List.filter_map]
      rfl
    have same : (rest.filter fun entry => !List.any [newProperty name value] (isNamed entry.1)) =
        rest.filter fun entry => !entry.1 == name := by
      simp [BEq.comm]
    rw [same, head, tail, others] at split
    rw [List.map_cons, List.eraseDups_cons, List.map_cons]
    refine split.trans (congrArg _ (List.map_congr_left fun other hother => ?_))
    have hne : other ≠ name := by
      have := (List.mem_filter.1 (List.mem_eraseDups.1 hother)).2
      simpa using this
    rw [latest?_filter fun other => !other == name, latest?_cons]
    simp [hne, hne.symm]
termination_by entries.length
decreasing_by
  exact Nat.lt_succ_of_le (List.length_filter_le _ _)

/-! ## All entries -/

instance (name : String) (item : Json) : Decidable (Named name item) :=
  decidable_of_iff _ isNamed_iff

/-- The names of pending values that no item has, in the order in which they first appear. -/
def Pending.newNames (pending : Pending) (items : List Json) : List String :=
  (pending.names.filter fun name => ∀ item ∈ items, ¬ Named name item).eraseDups

/-- Pending values have been written into the properties `before`: the first item of each name with a
pending value has that value, all other items are unchanged and in their places, and behind them
stands one new property for each pending name that was missing. -/
structure Filled (pending : Pending) (before after : List Json) : Prop where
  taken : ∀ i item name value, FirstNamed name before i item → pending.get? name = some value →
    ∃ members members', item = .obj members ∧ after[i]? = some (.obj members') ∧
      Entries.Edited "value" (fun _ new => new = .str value) members members'
  kept : ∀ i item, before[i]? = some item →
    (∀ name, FirstNamed name before i item → pending.get? name = none) → after[i]? = some item
  added : (after.drop before.length).Forall₂
    (fun item name => ∃ value, pending.get? name = some value ∧
      item = .obj [("name", .str name), ("value", .str value)])
    (pending.newNames before)

theorem not_any_isNamed (items : List Json) (name : String) :
    (!items.any (isNamed name)) = decide (∀ item ∈ items, ¬ Named name item) := by
  rw [Bool.eq_iff_iff]
  simp [isNamed_eq_false_iff]

theorem writeEntries_eq_append (pending : Pending) (items : List Json) :
    (writeEntries pending items).1 =
      pending.entries.foldl overwrite items ++
        (pending.newNames items).map fun name => newProperty name ((pending.get? name).getD "") := by
  have split := foldl_put_append pending.entries items []
  rw [List.append_nil, foldl_put_nil] at split
  have names : (pending.entries.filter fun entry => !items.any (isNamed entry.1)).map (·.1) =
      pending.names.filter fun name => ∀ item ∈ items, ¬ Named name item := by
    rw [Pending.names, List.filter_map]
    simp only [not_any_isNamed, Function.comp_def]
  rw [fst_writeEntries, split, names]
  refine congrArg _ (List.map_congr_left fun name hname => ?_)
  have hfresh := (List.mem_filter.1 (List.mem_eraseDups.1 hname)).2
  rw [latest?_filter fun name => !items.any (isNamed name), not_any_isNamed, if_pos hfresh]
  rfl

theorem forall₂_newProperty (pending : Pending) (items : List Json) :
    ((pending.newNames items).map fun name =>
        newProperty name ((pending.get? name).getD "")).Forall₂
      (fun item name => ∃ value, pending.get? name = some value ∧
        item = .obj [("name", .str name), ("value", .str value)])
      (pending.newNames items) := by
  rw [List.forall₂_map_left_iff, List.forall₂_same]
  intro name hname
  have pendingName := (List.mem_filter.1 (List.mem_eraseDups.1 hname)).1
  cases hvalue : pending.get? name with
  | none => exact absurd pendingName (Pending.get?_eq_none_iff.1 hvalue)
  | some value => exact ⟨value, rfl, rfl⟩

theorem filled_writeEntries (pending : Pending) (items : List Json) :
    Filled pending items (writeEntries pending items).1 := by
  have length := length_foldl_overwrite pending.entries items
  have place : ∀ (i : Nat) (item : Json), items[i]? = some item →
      (writeEntries pending items).1[i]? = (pending.entries.foldl overwrite items)[i]? := by
    intro i item hitem
    have hi := (List.getElem?_eq_some_iff.1 hitem).1
    rw [writeEntries_eq_append, List.getElem?_append_left (by omega)]
  constructor
  case taken =>
    intro i item name value first hvalue
    obtain ⟨members, rfl⟩ := first.named.exists_members
    refine ⟨members, Entries.insert members "value" (.str value), rfl, ?_,
      Entries.edited_insert rfl⟩
    rw [place i _ first.at_place]
    exact (getElem?_foldl_overwrite _ first.at_place).1 name value first hvalue
  case kept =>
    intro i item hitem unwritten
    rw [place i item hitem]
    exact (getElem?_foldl_overwrite _ hitem).2 unwritten
  case added =>
    rw [writeEntries_eq_append, List.drop_append_of_le_length (by omega),
      List.drop_eq_nil_of_le (by omega), List.nil_append]
    exact forall₂_newProperty pending items

end PrivacyMapping.Oscal
