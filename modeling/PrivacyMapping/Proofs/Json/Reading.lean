import PrivacyMapping.Json.Reader
import PrivacyMapping.Proofs.Json.Fits

/-!
# Values that are read from a text

The reader goes down a limited number of levels, and puts the members of an object in one after the
other, so a key that repeats replaces the value that it had. A whole number that it gives fits 64 bits.
Every value that is read is therefore within these limits (`fits_of_parse`), and well-formed.
-/

namespace PrivacyMapping.Json

theorem bind_eq_ok_iff {ε α β : Type} {outcome : Except ε α} {next : α → Except ε β} {b : β} :
    outcome >>= next = .ok b ↔ ∃ a, outcome = .ok a ∧ next a = .ok b := by
  cases outcome <;> simp [bind, Except.bind]

theorem map_eq_ok_iff {ε α β : Type} {outcome : Except ε α} {f : α → β} {b : β} :
    outcome.map f = .ok b ↔ ∃ a, outcome = .ok a ∧ f a = b := by
  cases outcome <;> simp [Except.map]

theorem mapError_eq_ok_iff {ε ε' α : Type} {outcome : Except ε α} {f : ε → ε'} {a : α} :
    outcome.mapError f = .ok a ↔ outcome = .ok a := by
  cases outcome <;> simp [Except.mapError]

/-- A whole number fits 64 bits, with a sign or without one. -/
def Number.InRange : Number → Prop
  | .int n => -Int.pow 2 63 ≤ n ∧ n < Int.pow 2 64
  | .float _ => True

theorem Number.inRange_int_iff {n : Int} :
    (Number.int n).InRange ↔ -9223372036854775808 ≤ n ∧ n < 18446744073709551616 := Iff.rfl

namespace Reading

/-! ## Numbers -/

section numbers

variable {negative : Bool} {significand : Nat} {exponent : Int} {cs rest : List Char} {n : Number}

theorem inRange_of_float (h : float negative significand exponent cs = .ok (n, rest)) :
    n.InRange := by
  rw [float] at h
  generalize (Binary64.ofNat? false significand).bind (scale? · exponent) = magnitude at h
  cases magnitude with
  | none => cases h
  | some magnitude =>
    cases h
    trivial

theorem inRange_of_readExponent
    (h : readExponent negative significand exponent cs = .ok (n, rest)) : n.InRange := by
  unfold readExponent at h
  dsimp only at h
  split at h
  · cases h
  · cases h
  · split at h
    · exact inRange_of_float h
    · split_ifs at h
      · cases h
      · cases h
        trivial

theorem inRange_of_readAfterFraction
    (h : readAfterFraction negative significand exponent cs = .ok (n, rest)) : n.InRange := by
  unfold readAfterFraction at h
  split at h
  · exact inRange_of_readExponent h
  · exact inRange_of_readExponent h
  · exact inRange_of_float h

theorem inRange_of_readFraction
    (h : readFraction negative significand exponent cs = .ok (n, rest)) : n.InRange := by
  unfold readFraction at h
  dsimp only at h
  split at h
  · cases h
  · cases h
  · exact inRange_of_readAfterFraction h

theorem takeDigits_le (h : significand ≤ significandLimit) (digits : List Char) :
    (takeDigits significand digits).1 ≤ significandLimit := by
  induction digits generalizing significand with
  | nil => exact h
  | cons digit digits ih =>
    rw [takeDigits]
    split
    · next small => exact ih small
    · exact h

theorem inRange_of_wholeNumber? {i : Int} (small : significand ≤ significandLimit)
    (h : wholeNumber? negative significand = some i) : (Number.int i).InRange := by
  have limit : significandLimit = 18446744073709551615 := rfl
  rw [Number.inRange_int_iff]
  unfold wholeNumber? at h
  split_ifs at h with sign bound
  · obtain rfl := Option.some.inj h
    omega
  · obtain rfl := Option.some.inj h
    have bound : significand ≤ 9223372036854775808 := bound.2
    omega

theorem inRange_of_readNumber (h : readNumber negative cs = .ok (n, rest)) : n.InRange := by
  unfold readNumber at h
  dsimp only at h
  split at h
  · cases h
  · cases h
  · cases h
  · split at h
    · exact inRange_of_readFraction h
    · exact inRange_of_readExponent h
    · exact inRange_of_readExponent h
    · split at h
      · next whole =>
        cases h
        split_ifs at whole
        exact inRange_of_wholeNumber? (takeDigits_le (Nat.zero_le _) _) whole
      · exact inRange_of_float h

end numbers

/-- Whatever is read has a property. -/
def ItemReader.Sound (readItem : ItemReader) (property : Json → Prop) : Prop :=
  ∀ cs value rest, readItem cs = .ok (value, rest) → property value

variable {readItem : ItemReader} {property : Json → Prop}

/-! ## Arrays -/

theorem forall_of_readMoreItems (sound : readItem.Sound property) {n : Nat} {cs rest : List Char}
    {items : List Json} (h : readMoreItems readItem n cs = .ok (items, rest)) :
    ∀ item ∈ items, property item := by
  induction n generalizing cs items with
  | zero => cases h
  | succ n ih =>
    rw [readMoreItems] at h
    split at h
    · cases h
    · cases h
      simp
    · split at h
      · cases h
      · cases h
      · obtain ⟨⟨item, rest⟩, hitem, h⟩ := bind_eq_ok_iff.1 h
        obtain ⟨⟨more, rest⟩, hmore, h⟩ := bind_eq_ok_iff.1 h
        cases h
        exact List.forall_mem_cons.2 ⟨sound _ _ _ hitem, ih hmore⟩
    · cases h

theorem forall_of_readItems (sound : readItem.Sound property) {cs rest : List Char}
    {items : List Json} (h : readItems readItem cs = .ok (items, rest)) :
    ∀ item ∈ items, property item := by
  rw [readItems] at h
  split at h
  · cases h
  · cases h
    simp
  · obtain ⟨⟨item, rest⟩, hitem, h⟩ := bind_eq_ok_iff.1 h
    obtain ⟨⟨more, rest⟩, hmore, h⟩ := bind_eq_ok_iff.1 h
    cases h
    exact List.forall_mem_cons.2 ⟨sound _ _ _ hitem, forall_of_readMoreItems sound hmore⟩

/-! ## Objects -/

theorem property_of_readMember (sound : readItem.Sound property) {cs rest : List Char}
    {member : String × Json} (h : readMember readItem cs = .ok (member, rest)) :
    property member.2 := by
  unfold readMember at h
  split at h
  · obtain ⟨⟨key, rest⟩, -, h⟩ := bind_eq_ok_iff.1 h
    dsimp only at h
    split at h
    · cases h
    · obtain ⟨⟨value, rest⟩, hvalue, h⟩ := bind_eq_ok_iff.1 h
      cases h
      exact sound _ _ _ hvalue
    · cases h
  · cases h

theorem forall_of_readMoreMembers (sound : readItem.Sound property) {n : Nat} {cs rest : List Char}
    {members : Entries Json} (h : readMoreMembers readItem n cs = .ok (members, rest)) :
    ∀ member ∈ members, property member.2 := by
  induction n generalizing cs members with
  | zero => cases h
  | succ n ih =>
    rw [readMoreMembers] at h
    split at h
    · cases h
    · cases h
      simp
    · split at h
      · cases h
      · cases h
      · obtain ⟨⟨member, rest⟩, hmember, h⟩ := bind_eq_ok_iff.1 h
        obtain ⟨⟨more, rest⟩, hmore, h⟩ := bind_eq_ok_iff.1 h
        cases h
        exact List.forall_mem_cons.2 ⟨property_of_readMember sound hmember, ih hmore⟩
    · cases h

theorem forall_of_readMembers (sound : readItem.Sound property) {cs rest : List Char}
    {members : Entries Json} (h : readMembers readItem cs = .ok (members, rest)) :
    ∀ member ∈ members, property member.2 := by
  rw [readMembers] at h
  split at h
  · cases h
  · cases h
    simp
  · obtain ⟨⟨member, rest⟩, hmember, h⟩ := bind_eq_ok_iff.1 h
    obtain ⟨⟨more, rest⟩, hmore, h⟩ := bind_eq_ok_iff.1 h
    cases h
    exact List.forall_mem_cons.2
      ⟨property_of_readMember sound hmember, forall_of_readMoreMembers sound hmore⟩

/-! ## Values -/

theorem eq_of_readWord {word value : Json} {letters cs rest : List Char}
    (h : readWord word letters cs = .ok (value, rest)) : value = word := by
  induction letters generalizing cs with
  | nil =>
    cases h
    rfl
  | cons letter letters ih =>
    cases cs with
    | nil => cases h
    | cons c cs =>
      rw [readWord] at h
      split_ifs at h
      · exact ih h
      · cases h

theorem fits_of_readValueWith {inner : Option ItemReader} {room : Nat}
    (hinner : ∀ readItem, inner = some readItem →
      ∃ inside, room = inside + 1 ∧ readItem.Sound (Fits Number.InRange inside)) :
    ItemReader.Sound (readValueWith inner) (Fits Number.InRange room) := by
  intro cs value rest h
  unfold readValueWith at h
  split at h
  · cases h
  · exact eq_of_readWord h ▸ .null room
  · exact eq_of_readWord h ▸ .bool room true
  · exact eq_of_readWord h ▸ .bool room false
  · obtain ⟨⟨s, rest⟩, -, h⟩ := bind_eq_ok_iff.1 h
    cases h
    exact .str room s
  · obtain ⟨⟨n, rest⟩, hn, h⟩ := bind_eq_ok_iff.1 h
    cases h
    exact .num room (inRange_of_readNumber hn)
  · split at h
    · cases h
    · next readItem =>
      obtain ⟨inside, rfl, sound⟩ := hinner readItem rfl
      obtain ⟨⟨items, rest⟩, hitems, h⟩ := bind_eq_ok_iff.1 h
      cases h
      exact .arr (forall_of_readItems sound hitems)
  · split at h
    · cases h
    · next readItem =>
      obtain ⟨inside, rfl, sound⟩ := hinner readItem rfl
      obtain ⟨⟨members, rest⟩, hmembers, h⟩ := bind_eq_ok_iff.1 h
      cases h
      exact Fits.obj_nil.insertAll (forall_of_readMembers sound hmembers)
  · split_ifs at h
    · obtain ⟨⟨n, rest⟩, hn, h⟩ := bind_eq_ok_iff.1 h
      cases h
      exact .num room (inRange_of_readNumber hn)
    · cases h

theorem sound_readValue (room : Nat) : (readValue room).Sound (Fits Number.InRange room) := by
  induction room with
  | zero => exact fits_of_readValueWith nofun
  | succ room ih =>
    refine fits_of_readValueWith fun readItem h => ⟨room, rfl, ?_⟩
    obtain rfl := Option.some.inj h
    exact ih

theorem fits_of_readDocument {cs : List Char} {value : Json} (h : readDocument cs = .ok value) :
    value.Fits Number.InRange levels := by
  obtain ⟨⟨value, rest⟩, hvalue, h⟩ := bind_eq_ok_iff.1 h
  dsimp only at h
  split at h
  · cases h
    exact sound_readValue levels _ _ _ hvalue
  · cases h

end Reading

/-- **A value that is read from a text is within the limits of the reader.** -/
theorem fits_of_parse {text : String} {value : Json} (h : parse text = .ok value) :
    value.Fits Number.InRange Reading.levels := by
  unfold parse at h
  split at h
  · next hread =>
    cases h
    exact Reading.fits_of_readDocument hread
  · cases h

theorem wellFormed_of_parse {text : String} {value : Json} (h : parse text = .ok value) :
    value.WellFormed :=
  (fits_of_parse h).wellFormed

end PrivacyMapping.Json
