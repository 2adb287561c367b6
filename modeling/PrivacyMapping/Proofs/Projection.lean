import PrivacyMapping.Selector
import Mathlib.Data.List.Basic

/-!
# Projections and indexes

The mark of a selector stands for all indexes at once: what a projecting selector finds is what the
selectors with the indexes in place of the mark find, one after the other (`resolve_projection`). The
two are resolved along different ways, a projection by `project` and `follow?`, an index by `step?`
alone. Both are brought to `reach?`, which follows keys without a mark.
-/

namespace PrivacyMapping

/-! ## Indexes -/

/-- The text of an index: one or more digits. -/
def IsNumeral (digits : List Char) : Prop :=
  digits ≠ [] ∧ ∀ c ∈ digits, c.isDigit

theorem index?_eq_some_iff {key : String} {i : Nat} :
    index? key = some i ↔ ∃ digits, (key.toList = digits ∨ key.toList = '+' :: digits) ∧
      IsNumeral digits ∧ Nat.ofDigitChars 10 digits 0 = i ∧ i < indexBound := by
  have value : ∀ digits : List Char,
      (if digits.isEmpty || !digits.all Char.isDigit then none
        else if Nat.ofDigitChars 10 digits 0 < indexBound then some (Nat.ofDigitChars 10 digits 0)
        else none) = some i ↔
      IsNumeral digits ∧ Nat.ofDigitChars 10 digits 0 = i ∧ i < indexBound := by
    intro digits
    have refused : (digits.isEmpty || !digits.all Char.isDigit) = true ↔ ¬ IsNumeral digits := by
      simp [IsNumeral]
      grind
    by_cases numeral : IsNumeral digits
    · rw [if_neg (refused.not_left.2 numeral)]
      grind
    · rw [if_pos (refused.2 numeral)]
      simp [numeral]
  unfold index?
  dsimp only
  split
  · next rest h =>
    rw [value]
    constructor
    · intro accepted
      exact ⟨rest, .inr h, accepted⟩
    · rintro ⟨digits, written | written, accepted⟩
      · -- a plus sign is no digit
        rw [← written, h] at accepted
        exact absurd (accepted.1.2 '+' List.mem_cons_self) (by decide)
      · obtain rfl := (List.cons.inj (h.symm.trans written)).2
        exact accepted
  · next unsigned =>
    rw [value]
    constructor
    · intro accepted
      exact ⟨_, .inl rfl, accepted⟩
    · rintro ⟨digits, rfl | written, accepted⟩
      · exact accepted
      · exact (unsigned digits written).elim

theorem toList_toString (i : Nat) : (toString i).toList = Nat.toDigits 10 i := by
  rw [Nat.toString_eq_repr, Nat.toList_repr]

theorem isNumeral_toDigits (i : Nat) : IsNumeral (Nat.toDigits 10 i) :=
  ⟨Nat.toDigits_ne_nil, fun _ => Nat.isDigit_of_mem_toDigits (by decide) (by decide)⟩

theorem index?_toString {i : Nat} (h : i < indexBound) : index? (toString i) = some i :=
  index?_eq_some_iff.2
    ⟨_, .inl (toList_toString i), isNumeral_toDigits i, Nat.ofDigitChars_ten_toDigits, h⟩

/-! ## Keys without a mark -/

namespace Segment

/-- A part that leads on by its key. -/
def plain (key : String) : Segment :=
  ⟨key, false⟩

/-- A part that projects over the array under its key. -/
def marked (key : String) : Segment :=
  ⟨key, true⟩

end Segment

namespace Json

/-- The value that keys lead to, one after the other. -/
def reach? (value : Json) (keys : List String) : Option Json :=
  keys.foldlM step? value

theorem reach?_append (value : Json) (front back : List String) :
    value.reach? (front ++ back) = (value.reach? front).bind (·.reach? back) :=
  List.foldlM_append

theorem reach?_cons (value : Json) (key : String) (keys : List String) :
    value.reach? (key :: keys) = (value.step? key).bind (·.reach? keys) :=
  List.foldlM_cons

theorem follow?_plain (value : Json) (keys : List String) :
    value.follow? (keys.map Segment.plain) = value.reach? keys := by
  rw [follow?, List.foldlM_map]
  rfl

/-- Parts without a mark in front lead to the value in which the other parts are followed. -/
theorem select_plain_append (value : Json) (keys : List String) (rest : List Segment) :
    value.select (keys.map Segment.plain ++ rest) = (value.reach? keys).elim [] (·.select rest) := by
  induction keys generalizing value with
  | nil => rfl
  | cons key keys ih =>
    rw [List.map_cons, List.cons_append, select, reach?_cons, Segment.plain]
    cases value.step? key with
    | none => rfl
    | some next => exact ih next

theorem select_plain (value : Json) (keys : List String) :
    value.select (keys.map Segment.plain) = (value.reach? keys).elim [] results := by
  have h := value.select_plain_append keys []
  rwa [List.append_nil] at h

theorem select_marked (value : Json) (key : String) (rest : List Segment) :
    value.select (Segment.marked key :: rest) = (value.step? key).elim [] (·.project rest) := by
  rw [select, Segment.marked]
  cases value.step? key <;> rfl

/-- The results of the parts behind a mark in one item. -/
def projected (item : Json) (rest : List Segment) : List Json :=
  if rest.isEmpty then [item] else (item.follow? rest).elim [] results

theorem project_arr (items : List Json) (rest : List Segment) :
    (Json.arr items).project rest = items.flatMap (·.projected rest) := by
  rw [project]
  unfold projected
  split_ifs
  · exact (List.flatMap_singleton' items).symm
  · congr 1
    funext item
    cases item.follow? rest <;> rfl

theorem project_plain (items : List Json) (key : String) (keys : List String) :
    (Json.arr items).project ((key :: keys).map Segment.plain) =
      items.flatMap (·.select ((key :: keys).map Segment.plain)) := by
  rw [project_arr]
  congr 1
  funext item
  rw [projected, if_neg (by simp), follow?_plain, select_plain]

theorem step?_toString (items : List Json) {i : Nat} (h : i < indexBound) :
    (Json.arr items).step? (toString i) = items[i]? := by
  rw [step?, index?_toString h, Option.bind_some]

end Json

/-! ## Projections -/

/-- The value that keys lead to in the document of a name. -/
def Sources.reach? (sources : Sources) (name : String) (keys : List String) : Option Json :=
  (sources.get? name).bind (·.reach? keys)

theorem Sources.reach?_append (sources : Sources) (name : String) (front back : List String) :
    sources.reach? name (front ++ back) = (sources.reach? name front).bind (·.reach? back) := by
  simp only [reach?, Json.reach?_append, Option.bind_assoc]

namespace Selector

variable (sources : Sources) (source : String)

theorem resolve_plain_append (keys : List String) {rest : List Segment} (h : rest ≠ []) :
    resolve ⟨source, keys.map .plain ++ rest⟩ sources =
      (sources.reach? source keys).elim [] (·.select rest) := by
  rw [resolve, Sources.reach?]
  cases sources.get? source with
  | none => rfl
  | some document => simp [h, document.select_plain_append]

theorem resolve_marked (keys : List String) (key : String) (rest : List Segment) :
    resolve ⟨source, keys.map .plain ++ .marked key :: rest⟩ sources =
      (sources.reach? source (keys ++ [key])).elim [] (·.project rest) := by
  rw [resolve_plain_append sources source keys (List.cons_ne_nil _ _), Sources.reach?_append]
  cases sources.reach? source keys with
  | none => rfl
  | some value =>
    rw [Option.elim_some, value.select_marked, Option.bind_some, Json.reach?_cons]
    cases value.step? key <;> rfl

theorem resolve_indexed {keys back : List String} (hback : back ≠ []) {items : List Json}
    (reached : sources.reach? source keys = some (.arr items)) {i : Nat} (hi : i < items.length)
    (bounded : items.length ≤ indexBound) :
    resolve ⟨source, (keys ++ toString i :: back).map .plain⟩ sources =
      items[i].select (back.map .plain) := by
  have item : sources.reach? source (keys ++ [toString i]) = some items[i] := by
    rw [Sources.reach?_append, reached, Option.bind_some, Json.reach?_cons,
      Json.step?_toString items (Nat.lt_of_lt_of_le hi bounded), List.getElem?_eq_getElem hi]
    rfl
  have split : keys ++ toString i :: back = (keys ++ [toString i]) ++ back := by simp
  rw [split, List.map_append, resolve_plain_append sources source _ (by simpa using hback), item,
    Option.elim_some]

/-- **A projection joins what its indexes find.** Where the keys up to a mark lead to an array, the
selector finds what the selectors with the indexes `0`, `1` and so on in the place of the mark find,
joined in this order. Where they lead to nothing or to another value, it finds nothing. (No array has
more items than there are indexes.) -/
theorem resolve_projection (front : List String) (key next : String) (back : List String) :
    (∀ items, sources.reach? source (front ++ [key]) = some (.arr items) →
      items.length ≤ indexBound →
        resolve ⟨source, front.map .plain ++ .marked key :: (next :: back).map .plain⟩ sources =
          (List.range items.length).flatMap fun i =>
            resolve ⟨source, (front ++ key :: toString i :: next :: back).map .plain⟩ sources) ∧
    ((∀ items, sources.reach? source (front ++ [key]) ≠ some (.arr items)) →
      resolve ⟨source, front.map .plain ++ .marked key :: (next :: back).map .plain⟩ sources =
        []) := by
  rw [resolve_marked]
  constructor
  · intro items reached bounded
    have indexed : ∀ i (hi : i < items.length),
        resolve ⟨source, (front ++ key :: toString i :: next :: back).map .plain⟩ sources =
          items[i].select ((next :: back).map .plain) := by
      intro i hi
      have split : front ++ key :: toString i :: next :: back =
          (front ++ [key]) ++ toString i :: next :: back := by simp
      rw [split]
      exact resolve_indexed sources source (List.cons_ne_nil _ _) reached hi bounded
    rw [reached, Option.elim_some, Json.project_plain, List.flatMap_def, List.flatMap_def]
    congr 1
    apply List.ext_getElem
    · simp
    · intro i hi _
      simp only [List.getElem_map, List.getElem_range]
      exact (indexed i (by simpa using hi)).symm
  · intro elsewhere
    cases reached : sources.reach? source (front ++ [key]) with
    | none => rfl
    | some value =>
      cases value with
      | arr items => exact absurd reached (elsewhere items)
      | _ => rfl

/-- Items that have the values of the key `n` as an array with an array in it, not at all, as null,
and by an index. -/
def unlikeItems : List Json :=
  [.obj [("n", .arr [.num (.int 1), .arr [.str "a"]])], .obj [("m", .str "b")], .str "n",
    .obj [("k", .bool true), ("n", .null)], .arr [.str "c"]]

/-- A document that is an array, with the items in its second element. -/
def unlikeSources : Sources :=
  Sources.empty.insert "one"
    (.arr [.null, .obj [("list", .arr unlikeItems), ("7", .obj [("n", .null)])]])

theorem resolve_projection_unlike_items :
    (unlikeSources.reach? "one" ["1", "list"] = some (.arr unlikeItems) ∧
      unlikeItems.length ≤ indexBound ∧
      resolve ⟨"one", [.plain "1", .marked "list", .plain "n"]⟩ unlikeSources =
        [.num (.int 1), .arr [.str "a"], .null] ∧
      resolve ⟨"one", [.plain "1", .marked "list", .plain "n"]⟩ unlikeSources =
        (List.range 5).flatMap fun i =>
          resolve ⟨"one", [.plain "1", .plain "list", .plain (toString i), .plain "n"]⟩
            unlikeSources) ∧
    ((∀ items, unlikeSources.reach? "one" ["1", "7"] ≠ some (.arr items)) ∧
      resolve ⟨"one", [.plain "1", .marked "7", .plain "n"]⟩ unlikeSources = []) := by
  have reached : unlikeSources.reach? "one" ["1", "list"] = some (.arr unlikeItems) := rfl
  have elsewhere : ∀ items, unlikeSources.reach? "one" ["1", "7"] ≠ some (.arr items) := nofun
  have bounded : unlikeItems.length ≤ indexBound := by decide
  exact ⟨⟨reached, bounded, rfl,
    (resolve_projection unlikeSources "one" ["1"] "list" "n" []).1 unlikeItems reached bounded⟩,
    elsewhere, (resolve_projection unlikeSources "one" ["1"] "7" "n" []).2 elsewhere⟩

end Selector

end PrivacyMapping
