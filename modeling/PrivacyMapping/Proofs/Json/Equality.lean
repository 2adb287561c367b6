import PrivacyMapping.Proofs.Binary64
import PrivacyMapping.Proofs.Json.WellFormed
import Mathlib.Data.List.Perm.Subperm

/-!
# Equality of values

`Equal` says when two values mean the same: whole numbers are compared with whole numbers and
floating-point numbers with floating-point numbers, by their values, and objects are compared key by
key, in whatever order their members stand. It is an equivalence, and on well-formed values `Json.same`
decides it. Equality of written forms, which also counts the order of members and the sign of zero, is
decided by `decEq`.
-/

namespace PrivacyMapping.Json

/-- The two values mean the same. -/
inductive Equal : Json → Json → Prop
  | null : Equal .null .null
  | bool (b : Bool) : Equal (.bool b) (.bool b)
  | int (n : Int) : Equal (.num (.int n)) (.num (.int n))
  | float {x y : Binary64} (value : x.signedUnits = y.signedUnits) :
      Equal (.num (.float x)) (.num (.float y))
  | str (s : String) : Equal (.str s) (.str s)
  | arr {xs ys : List Json} (length : xs.length = ys.length)
      (items : ∀ (i : Nat) (x y : Json), xs[i]? = some x → ys[i]? = some y → Equal x y) :
      Equal (.arr xs) (.arr ys)
  | obj {xs ys : Entries Json} (keys : ∀ key, key ∈ xs.keys ↔ key ∈ ys.keys)
      (values : ∀ key x y, xs.get? key = some x → ys.get? key = some y → Equal x y) :
      Equal (.obj xs) (.obj ys)

namespace Equal

/-! ## An equivalence -/

theorem refl : (value : Json) → value.Equal value
  | .null => .null
  | .bool b => .bool b
  | .num (.int n) => .int n
  | .num (.float _) => .float rfl
  | .str s => .str s
  | .arr items => by
    refine .arr rfl fun i x y hx hy => ?_
    obtain rfl := Option.some.inj (hx.symm.trans hy)
    have member : x ∈ items := List.mem_of_getElem? hx
    exact refl x
  | .obj members => by
    refine .obj (fun _ => Iff.rfl) fun key x y hx hy => ?_
    obtain rfl := Option.some.inj (hx.symm.trans hy)
    have member : (key, x) ∈ members := Entries.mem_of_get?_eq_some hx
    exact refl x
termination_by value => sizeOf value
decreasing_by
  · have := List.sizeOf_lt_of_mem member
    simp only [Json.arr.sizeOf_spec]
    omega
  · have := List.sizeOf_lt_of_mem member
    simp only [Json.obj.sizeOf_spec, Prod.mk.sizeOf_spec] at this ⊢
    omega

theorem symm {a b : Json} (h : a.Equal b) : b.Equal a := by
  induction h with
  | null => exact .null
  | bool b => exact .bool b
  | int n => exact .int n
  | float value => exact .float value.symm
  | str s => exact .str s
  | arr length items ih => exact .arr length.symm fun i y x hy hx => ih i x y hx hy
  | obj keys values ih =>
    exact .obj (fun key => (keys key).symm) fun key y x hy hx => ih key x y hx hy

theorem trans {a b c : Json} (h : a.Equal b) (h' : b.Equal c) : a.Equal c := by
  induction h generalizing c with
  | null => exact h'
  | bool b => exact h'
  | int n => exact h'
  | float value =>
    cases h' with
    | float value' => exact .float (value.trans value')
  | str s => exact h'
  | @arr xs ys length items ih =>
    cases h' with
    | @arr _ zs length' items' =>
      refine .arr (length.trans length') fun i x z hx hz => ?_
      have inside : i < ys.length := by
        rw [← length]
        exact (List.getElem?_eq_some_iff.1 hx).1
      have hy : ys[i]? = some ys[i] := List.getElem?_eq_getElem inside
      exact ih i x ys[i] hx hy (items' i ys[i] z hy hz)
  | @obj xs ys keys values ih =>
    cases h' with
    | @obj _ zs keys' values' =>
      refine .obj (fun key => (keys key).trans (keys' key)) fun key x z hx hz => ?_
      obtain ⟨y, hy⟩ := Entries.mem_keys_iff.1 ((keys key).1 (Entries.mem_keys_iff.2 ⟨x, hx⟩))
      exact ih key x y hx hy (values' key y z hy hz)

theorem arr_nil_iff {ys : List Json} : (Json.arr []).Equal (.arr ys) ↔ ys = [] := by
  constructor
  · intro h
    cases h with
    | arr length _ => exact List.eq_nil_of_length_eq_zero length.symm
  · rintro rfl
    exact refl _

theorem arr_cons_iff {x y : Json} {xs ys : List Json} :
    (Json.arr (x :: xs)).Equal (.arr (y :: ys)) ↔ x.Equal y ∧ (Json.arr xs).Equal (.arr ys) := by
  constructor
  · intro h
    cases h with
    | arr length items =>
      have rest : (Json.arr xs).Equal (.arr ys) :=
        .arr (Nat.succ.inj length) fun i x y hx hy => items (i + 1) x y hx hy
      exact ⟨items 0 x y rfl rfl, rest⟩
  · rintro ⟨first, rest⟩
    cases rest with
    | arr length items =>
      refine .arr (congrArg Nat.succ length) fun i x' y' hx hy => ?_
      cases i with
      | zero =>
        obtain rfl := Option.some.inj hx
        obtain rfl := Option.some.inj hy
        exact first
      | succ i => exact items i x' y' hx hy

theorem length_eq {xs ys : Entries Json} (h : (Json.obj xs).Equal (.obj ys))
    (hxs : xs.keys.Nodup) (hys : ys.keys.Nodup) : xs.length = ys.length := by
  cases h with
  | obj keys _ =>
    have perm : xs.keys.Perm ys.keys := (List.perm_ext_iff_of_nodup hxs hys).2 keys
    simpa [Entries.keys] using perm.length_eq

end Equal

/-! ## The decision -/

/-- The comparison of `x` with well-formed values is decided by `same`. -/
def Decided (x : Json) : Prop :=
  ∀ y : Json, y.WellFormed → (x.same y = true ↔ x.Equal y)

theorem sameItems_iff {xs ys : List Json} (hxs : ∀ x ∈ xs, x.Decided) (hys : ∀ y ∈ ys, y.WellFormed) :
    sameItems xs ys = true ↔ (Json.arr xs).Equal (.arr ys) := by
  induction xs generalizing ys with
  | nil =>
    rw [Equal.arr_nil_iff]
    cases ys <;> simp [sameItems]
  | cons x xs ih =>
    cases ys with
    | nil =>
      constructor
      · simp [sameItems]
      · intro h
        cases h with
        | arr length _ => simp at length
    | cons y ys =>
      obtain ⟨hx, hxs⟩ := List.forall_mem_cons.1 hxs
      obtain ⟨hy, hys⟩ := List.forall_mem_cons.1 hys
      rw [sameItems, Bool.and_eq_true, hx y hy, ih hxs hys, Equal.arr_cons_iff]

theorem sameMembers_iff {xs ys : Entries Json} :
    sameMembers xs ys = true ↔
      ∀ member ∈ xs, ∃ y, ys.get? member.1 = some y ∧ member.2.same y = true := by
  induction xs with
  | nil => simp [sameMembers]
  | cons member rest ih =>
    rw [sameMembers, Bool.and_eq_true, ih, List.forall_mem_cons]
    refine and_congr_left fun _ => ?_
    cases ys.get? member.1 with
    | none => simp
    | some y => simp

theorem same_obj_iff {xs ys : Entries Json} (hxs : xs.keys.Nodup)
    (inside : ∀ member ∈ xs, member.2.Decided) (hys : (Json.obj ys).WellFormed) :
    (Json.obj xs).same (.obj ys) = true ↔ (Json.obj xs).Equal (.obj ys) := by
  rw [same, Bool.and_eq_true, beq_iff_eq, sameMembers_iff]
  constructor
  · rintro ⟨length, members⟩
    -- as many keys in the second object as in the first, which are all among them
    have subset : xs.keys ⊆ ys.keys := by
      intro key hkey
      obtain ⟨x, hx⟩ := Entries.mem_keys_iff.1 hkey
      obtain ⟨y, hy, -⟩ := members _ (Entries.mem_of_get?_eq_some hx)
      exact Entries.mem_keys_iff.2 ⟨y, hy⟩
    have perm : xs.keys.Perm ys.keys := by
      refine (List.subperm_of_subset hxs subset).perm_of_length_le ?_
      simp [Entries.keys, length]
    refine .obj (fun key => perm.mem_iff) fun key x y hx hy => ?_
    have member := Entries.mem_of_get?_eq_some hx
    obtain ⟨y', hy', same⟩ := members _ member
    obtain rfl : y = y' := Option.some.inj (hy.symm.trans hy')
    exact (inside _ member y (hys.of_get?_entries hy)).1 same
  · intro h
    refine ⟨h.length_eq hxs (WellFormed.obj_iff.1 hys).1, fun member hmember => ?_⟩
    have hx := Entries.get?_eq_some_of_mem hxs hmember
    cases h with
    | obj keys values =>
      obtain ⟨y, hy⟩ := Entries.mem_keys_iff.1 ((keys member.1).1 (Entries.mem_keys_iff.2 ⟨_, hx⟩))
      exact ⟨y, hy, (inside _ hmember y (hys.of_get?_entries hy)).2 (values _ _ y hx hy)⟩

theorem Number.same_iff {m n : Number} : m.same n = true ↔ (Json.num m).Equal (.num n) := by
  cases m with
  | int m =>
    cases n with
    | int n =>
      rw [Number.same, beq_iff_eq]
      constructor
      · rintro rfl
        exact .int m
      · intro h
        cases h with
        | int => rfl
    | float y => exact iff_of_false Bool.false_ne_true nofun
  | float x =>
    cases n with
    | int n => exact iff_of_false Bool.false_ne_true nofun
    | float y =>
      rw [Number.same, Binary64.sameValue_iff]
      constructor
      · exact .float
      · intro h
        cases h with
        | float value => exact value

theorem WellFormed.decided {x : Json} (h : x.WellFormed) : x.Decided := by
  intro y hy
  induction h generalizing y with
  | null =>
    cases y with
    | null => exact iff_of_true rfl .null
    | _ => exact iff_of_false Bool.false_ne_true nofun
  | bool a =>
    cases y with
    | bool b =>
      rw [same, beq_iff_eq]
      exact ⟨fun h => h ▸ .bool a, fun h => by cases h; rfl⟩
    | _ => exact iff_of_false Bool.false_ne_true nofun
  | num m =>
    cases y with
    | num n =>
      rw [same]
      exact Number.same_iff
    | _ => exact iff_of_false Bool.false_ne_true nofun
  | str s =>
    cases y with
    | str t =>
      rw [same, beq_iff_eq]
      exact ⟨fun h => h ▸ .str s, fun h => by cases h; rfl⟩
    | _ => exact iff_of_false Bool.false_ne_true nofun
  | arr _ ih =>
    cases y with
    | arr ys =>
      rw [same]
      exact sameItems_iff ih (WellFormed.arr_iff.1 hy)
    | _ => exact iff_of_false Bool.false_ne_true nofun
  | obj distinct _ ih =>
    cases y with
    | obj ys => exact same_obj_iff distinct ih hy
    | _ => exact iff_of_false Bool.false_ne_true nofun

/-- Values of a document are taken for equal exactly if they mean the same. -/
theorem same_iff_equal {x y : Json} (hx : x.WellFormed) (hy : y.WellFormed) :
    x.same y = true ↔ x.Equal y :=
  hx.decided y hy

/-! ## Equality of written forms -/

mutual

/-- Whether two values are written alike. -/
def decEq : (x y : Json) → Decidable (x = y)
  | .null, .null => isTrue rfl
  | .bool a, .bool b => decidable_of_iff (a = b) (by simp)
  | .num m, .num n => decidable_of_iff (m = n) (by simp)
  | .str s, .str t => decidable_of_iff (s = t) (by simp)
  | .arr xs, .arr ys =>
    have := decEqItems xs ys
    decidable_of_iff (xs = ys) (by simp)
  | .obj xs, .obj ys =>
    have := decEqMembers xs ys
    decidable_of_iff (xs = ys) (by simp)
  | .null, .bool _ | .null, .num _ | .null, .str _ | .null, .arr _ | .null, .obj _
  | .bool _, .null | .bool _, .num _ | .bool _, .str _ | .bool _, .arr _ | .bool _, .obj _
  | .num _, .null | .num _, .bool _ | .num _, .str _ | .num _, .arr _ | .num _, .obj _
  | .str _, .null | .str _, .bool _ | .str _, .num _ | .str _, .arr _ | .str _, .obj _
  | .arr _, .null | .arr _, .bool _ | .arr _, .num _ | .arr _, .str _ | .arr _, .obj _
  | .obj _, .null | .obj _, .bool _ | .obj _, .num _ | .obj _, .str _ | .obj _, .arr _ =>
    isFalse (by simp)

/-- Whether two arrays are written alike. -/
def decEqItems : (xs ys : List Json) → Decidable (xs = ys)
  | [], [] => isTrue rfl
  | x :: xs, y :: ys =>
    have := decEq x y
    have := decEqItems xs ys
    decidable_of_iff (x = y ∧ xs = ys) (by simp)
  | [], _ :: _ | _ :: _, [] => isFalse (by simp)

/-- Whether two objects are written alike. -/
def decEqMembers : (xs ys : List (String × Json)) → Decidable (xs = ys)
  | [], [] => isTrue rfl
  | (key, x) :: xs, (other, y) :: ys =>
    have := decEq x y
    have := decEqMembers xs ys
    decidable_of_iff (key = other ∧ x = y ∧ xs = ys) (by simp [and_assoc])
  | [], _ :: _ | _ :: _, [] => isFalse (by simp)

end

instance : DecidableEq Json := decEq

end PrivacyMapping.Json
