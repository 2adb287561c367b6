/-!
# Entries in the order of their first appearance

A list of pairs used as a dictionary: each key keeps the place of its first insertion and holds the
value of its last one. Objects of a document, the set of source documents and the bindings of target
fields are all held this way. `get?` is the view through which the other operations are described.
-/

namespace PrivacyMapping

abbrev Entries (α : Type) := List (String × α)

namespace Entries

variable {α : Type}

def keys (entries : Entries α) : List String :=
  entries.map (·.1)

/-- The value under a key. -/
def get? : Entries α → String → Option α
  | [], _ => none
  | (k, v) :: rest, key => if k = key then some v else get? rest key

/-- Put a value under a key: in place if the key is there, at the end otherwise. -/
def insert : Entries α → String → α → Entries α
  | [], key, value => [(key, value)]
  | (k, v) :: rest, key, value =>
    if k = key then (k, value) :: rest else (k, v) :: insert rest key value

/-- Put a value under a key of a dictionary whose keys increase: in place if the key is there,
before the first greater key otherwise. -/
def insertSorted : Entries α → String → α → Entries α
  | [], key, value => [(key, value)]
  | (k, v) :: rest, key, value =>
    if key < k then (key, value) :: (k, v) :: rest
    else if k = key then (key, value) :: rest
    else (k, v) :: insertSorted rest key value

/-- The dictionary that results from inserting pairs one after the other. -/
def insertAll (entries pairs : Entries α) : Entries α :=
  pairs.foldl (fun acc pair => acc.insert pair.1 pair.2) entries

/-! ## What the operations do to the view -/

@[simp]
theorem get?_nil (key : String) : get? ([] : Entries α) key = none := rfl

theorem get?_insert_self (entries : Entries α) (key : String) (value : α) :
    (entries.insert key value).get? key = some value := by
  induction entries with
  | nil => simp [insert, get?]
  | cons pair rest ih =>
    rw [insert]
    split
    · next h => simp [get?, h]
    · next h => simp [get?, h, ih]

theorem get?_insert_of_ne (entries : Entries α) {key other : String} (value : α)
    (h : other ≠ key) : (entries.insert key value).get? other = entries.get? other := by
  induction entries with
  | nil => simp [insert, get?, Ne.symm h]
  | cons pair rest ih =>
    rw [insert]
    split
    · next hk => simp [get?, hk, Ne.symm h]
    · next hk => simp [get?, ih]

theorem keys_insert (entries : Entries α) (key : String) (value : α) :
    (entries.insert key value).keys =
      if key ∈ entries.keys then entries.keys else entries.keys ++ [key] := by
  induction entries with
  | nil => simp [insert, keys]
  | cons pair rest ih =>
    rw [insert]
    by_cases h : pair.1 = key
    · simp [h, keys]
    · have same : (Entries.insert rest key value).map (·.1) = _ := ih
      simp only [h, if_false, keys, List.map_cons, List.mem_cons, Ne.symm h, false_or, same]
      split <;> simp_all

end Entries

end PrivacyMapping
