import Mathlib.Data.List.Forall2
import PrivacyMapping.Proofs.Json.Tokens

/-!
# Written values that are read back

A value that is written and read again is the same value, with its members in their order, as long as
it lies within the limits of the reader and its numbers are read back (`parse_write`). This holds in
every layout that puts nothing but gaps between the parts of a value.

Arrays and objects are read by functions of the same shape. `PartsReader` says what they have in
common, so that one induction over the parts serves both.
-/

namespace PrivacyMapping.Json

open Reading (isGap skipGaps Ends)

/-! ## Layouts -/

/-- Nothing but gaps. -/
def Blank (cs : List Char) : Prop :=
  ∀ c ∈ cs, isGap c

/-- Between the parts of a value there are gaps, and after each key a colon. -/
structure Layout.Gapped (layout : Layout) : Prop where
  colon : ∃ gaps, layout.colon = ':' :: gaps ∧ Blank gaps
  lineBreak : ∀ depth, Blank (layout.lineBreak depth)

theorem Layout.gapped_indented : Layout.indented.Gapped where
  colon := ⟨[' '], rfl, by simp [Blank, isGap]⟩
  lineBreak depth := by simp [Blank, Layout.indented, isGap]

/-- What stands after the first part of an array or object, up to its closing bracket. -/
def Layout.more (layout : Layout) (depth : Nat) (right : Char) : List (List Char) → List Char
  | [] => layout.lineBreak depth ++ [right]
  | part :: parts => ',' :: layout.lineBreak (depth + 1) ++ part ++ layout.more depth right parts

theorem Layout.enclose_cons (layout : Layout) (depth : Nat) (left right : Char) (part : List Char)
    (parts : List (List Char)) :
    layout.enclose depth left right (part :: parts) =
      left :: (layout.lineBreak (depth + 1) ++ (part ++ layout.more depth right parts)) := by
  have rest : parts.flatMap (fun part => ',' :: layout.lineBreak (depth + 1) ++ part) ++
      (layout.lineBreak depth ++ [right]) = layout.more depth right parts := by
    induction parts with
    | nil => rfl
    | cons part parts ih => simp [more, ← ih]
  rw [enclose, ← rest]
  simp

theorem Layout.length_lt_length_more (layout : Layout) (depth : Nat) (right : Char)
    (parts : List (List Char)) : parts.length < (layout.more depth right parts).length := by
  induction parts with
  | nil => simp [more]
  | cons part parts ih =>
    simp only [more, List.cons_append, List.length_cons, List.length_append]
    omega

namespace Reading

/-! ## Parts of a text -/

theorem skipGaps_append {gaps : List Char} (h : Blank gaps) (rest : List Char) :
    skipGaps (gaps ++ rest) = skipGaps rest :=
  List.dropWhile_append_of_pos h

theorem Starts.skipGaps_eq {text : List Char} (h : Starts text) : skipGaps text = text := by
  obtain ⟨c, more, rfl, solid, -⟩ := h
  simp [skipGaps, solid]

theorem Starts.append {text : List Char} (h : Starts text) (rest : List Char) :
    Starts (text ++ rest) := by
  obtain ⟨c, more, rfl, start⟩ := h
  exact ⟨c, more ++ rest, rfl, start⟩

theorem ends_append {gaps rest : List Char} (h : Blank gaps) (ends : Ends rest) :
    Ends (gaps ++ rest) := by
  cases gaps with
  | nil => exact ends
  | cons c gaps =>
    have gap : isGap c := h c List.mem_cons_self
    simp only [isGap, Bool.or_eq_true, beq_iff_eq] at gap
    rcases gap with ((rfl | rfl) | rfl) | rfl <;> exact ends_cons (by decide)

theorem ends_more {layout : Layout} (gapped : layout.Gapped) (depth : Nat) {right : Char}
    (hright : right = ']' ∨ right = '}') (parts : List (List Char)) (rest : List Char) :
    Ends (layout.more depth right parts ++ rest) := by
  cases parts with
  | nil =>
    rw [Layout.more, List.append_assoc]
    refine ends_append (gapped.lineBreak depth) ?_
    rcases hright with rfl | rfl <;> exact ends_cons (by decide)
  | cons part parts => exact ends_cons (by decide)

/-! ## Arrays and objects -/

/-- What the readers for arrays and for objects have in common: they read parts with commas between
them up to a closing bracket, and look over the gaps in front of each. -/
structure PartsReader {α : Type} (readPart : List Char → Outcome (α × List Char))
    (readMore : Nat → List Char → Outcome (List α × List Char))
    (readAll : List Char → Outcome (List α × List Char)) (right : Char) : Prop where
  isRight : right = ']' ∨ right = '}'
  none : ∀ rest, readAll (right :: rest) = .ok ([], rest)
  first : ∀ {gaps text}, Blank gaps → Starts text → readAll (gaps ++ text) =
    readPart text >>= fun (a, rest) =>
      readMore rest.length rest >>= fun (more, rest) => .ok (a :: more, rest)
  close : ∀ {gaps} n rest, Blank gaps → readMore (n + 1) (gaps ++ right :: rest) = .ok ([], rest)
  next : ∀ {gaps text} n, Blank gaps → Starts text → readMore (n + 1) (',' :: (gaps ++ text)) =
    readPart text >>= fun (a, rest) =>
      readMore n rest >>= fun (more, rest) => .ok (a :: more, rest)

theorem partsReader_readItems (readItem : ItemReader) :
    PartsReader readItem (readMoreItems readItem) (readItems readItem) ']' where
  isRight := .inl rfl
  none rest := rfl
  first := by
    intro gaps text blank starts
    rw [readItems, skipGaps_append blank, starts.skipGaps_eq]
    obtain ⟨c, more, rfl, -, bracket, -⟩ := starts
    split
    · next empty => cases empty
    · next closed => exact absurd (List.cons.inj closed).1 bracket
    · rfl
  close := by
    intro gaps n rest blank
    rw [readMoreItems, skipGaps_append blank]
    rfl
  next := by
    intro gaps text n blank starts
    have comma : skipGaps (',' :: (gaps ++ text)) = ',' :: (gaps ++ text) := rfl
    rw [readMoreItems, comma]
    split
    · next empty => cases empty
    · next closed => exact absurd (List.cons.inj closed).1 (by decide)
    · next rest eq =>
      obtain rfl := (List.cons.inj eq).2
      rw [skipGaps_append blank, starts.skipGaps_eq]
      obtain ⟨c, more, rfl, -, bracket, -⟩ := starts
      split
      · next empty => cases empty
      · next closed => exact absurd (List.cons.inj closed).1 bracket
      · rfl
    · next other => exact absurd rfl (other _)

theorem partsReader_readMembers (readItem : ItemReader) :
    PartsReader (readMember readItem) (readMoreMembers readItem) (readMembers readItem) '}' where
  isRight := .inr rfl
  none rest := rfl
  first := by
    intro gaps text blank starts
    rw [readMembers, skipGaps_append blank, starts.skipGaps_eq]
    obtain ⟨c, more, rfl, -, -, brace⟩ := starts
    split
    · next empty => cases empty
    · next closed => exact absurd (List.cons.inj closed).1 brace
    · rfl
  close := by
    intro gaps n rest blank
    rw [readMoreMembers, skipGaps_append blank]
    rfl
  next := by
    intro gaps text n blank starts
    have comma : skipGaps (',' :: (gaps ++ text)) = ',' :: (gaps ++ text) := rfl
    rw [readMoreMembers, comma]
    split
    · next empty => cases empty
    · next closed => exact absurd (List.cons.inj closed).1 (by decide)
    · next rest eq =>
      obtain rfl := (List.cons.inj eq).2
      rw [skipGaps_append blank, starts.skipGaps_eq]
      obtain ⟨c, more, rfl, -, -, brace⟩ := starts
      split
      · next empty => cases empty
      · next closed => exact absurd (List.cons.inj closed).1 brace
      · rfl
    · next other => exact absurd rfl (other _)

section parts

variable {α : Type} {readPart : List Char → Outcome (α × List Char)}
  {readMore : Nat → List Char → Outcome (List α × List Char)}
  {readAll : List Char → Outcome (List α × List Char)} {right : Char} {layout : Layout}

/-- The bound is enough if it is greater than the number of parts: the closing bracket takes one more
step. -/
theorem PartsReader.readMore_written (reader : PartsReader readPart readMore readAll right)
    (gapped : layout.Gapped) (depth : Nat) {parts : List (List Char)} {values : List α}
    (h : List.Forall₂ (ReadsAs readPart) parts values) {n : Nat} (enough : parts.length < n)
    (rest : List Char) :
    readMore n (layout.more depth right parts ++ rest) = .ok (values, rest) := by
  induction h generalizing n with
  | nil =>
    obtain ⟨n, rfl⟩ := Nat.exists_eq_succ_of_ne_zero (Nat.ne_zero_of_lt enough)
    rw [Layout.more, List.append_assoc]
    exact reader.close n rest (gapped.lineBreak depth)
  | @cons part value parts values hpart _ ih =>
    obtain ⟨n, rfl⟩ := Nat.exists_eq_succ_of_ne_zero (Nat.ne_zero_of_lt enough)
    have ends := ends_more gapped depth reader.isRight parts rest
    have starts := hpart.starts.append (layout.more depth right parts ++ rest)
    rw [Layout.more, List.append_assoc, List.cons_append, List.cons_append, List.append_assoc,
      reader.next n (gapped.lineBreak (depth + 1)) starts, hpart.read_eq _ ends]
    dsimp only [bind, Except.bind]
    rw [ih (Nat.lt_of_succ_lt_succ enough)]

theorem PartsReader.readAll_written (reader : PartsReader readPart readMore readAll right)
    (gapped : layout.Gapped) (depth : Nat) (left : Char) {parts : List (List Char)} {values : List α}
    (h : List.Forall₂ (ReadsAs readPart) parts values) :
    ∃ body, layout.enclose depth left right parts = left :: body ∧
      ∀ rest, readAll (body ++ rest) = .ok (values, rest) := by
  cases h with
  | nil => exact ⟨[right], rfl, reader.none⟩
  | @cons part value parts values hpart hparts =>
    refine ⟨_, layout.enclose_cons depth left right part parts, fun rest => ?_⟩
    have ends := ends_more gapped depth reader.isRight parts rest
    have starts := hpart.starts.append (layout.more depth right parts ++ rest)
    have enough : parts.length < (layout.more depth right parts ++ rest).length := by
      have := layout.length_lt_length_more depth right parts
      rw [List.length_append]
      omega
    rw [List.append_assoc, List.append_assoc, reader.first (gapped.lineBreak (depth + 1)) starts,
      hpart.read_eq _ ends]
    dsimp only [bind, Except.bind]
    rw [reader.readMore_written gapped depth hparts enough]

end parts

/-! ## Values -/

theorem readValue_eq (room : Nat) : ∃ inner, readValue room = readValueWith inner := by
  cases room with
  | zero => exact ⟨none, rfl⟩
  | succ room => exact ⟨some (readValue room), rfl⟩

theorem readValue_append {gaps : List Char} (h : Blank gaps) (room : Nat) (cs : List Char) :
    readValue room (gaps ++ cs) = readValue room cs := by
  obtain ⟨inner, hread⟩ := readValue_eq room
  rw [hread, readValueWith, readValueWith, skipGaps_append h]

theorem readsAs_member {layout : Layout} (gapped : layout.Gapped) {room : Nat} {text : List Char}
    {value : Json} (h : ReadsAs (readValue room) text value) (key : String) :
    ReadsAs (readMember (readValue room)) (stringText key ++ layout.colon ++ text) (key, value) := by
  obtain ⟨gaps, colon, blank⟩ := gapped.colon
  refine ⟨⟨'"', _, rfl, by decide, by decide, by decide⟩, fun rest ends => ?_⟩
  have written : stringText key ++ layout.colon ++ text ++ rest =
      '"' :: (key.toList.flatMap escapedChar ++ '"' :: ':' :: (gaps ++ (text ++ rest))) := by
    simp [stringText, colon]
  rw [written, readMember]
  dsimp only
  rw [readString_written]
  change (readValue room (gaps ++ (text ++ rest)) >>= fun read =>
    Except.ok ((key, read.1), read.2)) = _
  rw [readValue_append blank, h.read_eq rest ends]
  rfl

/-- A written value is read back, whatever layout it has, at whatever depth it stands. -/
theorem readsAs_write {layout : Layout} (gapped : layout.Gapped) {room : Nat} {value : Json}
    (h : value.Fits Number.ReadsBack room) (depth : Nat) :
    ReadsAs (readValue room) (value.write layout depth) value := by
  induction h generalizing depth with
  | null room =>
    refine ⟨⟨'n', _, rfl, by decide⟩, fun rest _ => ?_⟩
    obtain ⟨inner, hread⟩ := readValue_eq room
    rw [hread]
    rfl
  | bool room b =>
    obtain ⟨inner, hread⟩ := readValue_eq room
    cases b with
    | false =>
      refine ⟨⟨'f', _, rfl, by decide⟩, fun rest _ => ?_⟩
      rw [hread]
      rfl
    | true =>
      refine ⟨⟨'t', _, rfl, by decide⟩, fun rest _ => ?_⟩
      rw [hread]
      rfl
  | @num room n back =>
    obtain ⟨inner, hread⟩ := readValue_eq room
    rw [hread]
    exact back inner
  | str room s =>
    refine ⟨⟨'"', _, rfl, by decide⟩, fun rest _ => ?_⟩
    obtain ⟨inner, hread⟩ := readValue_eq room
    have written : (Json.str s).write layout depth ++ rest =
        '"' :: (s.toList.flatMap escapedChar ++ '"' :: rest) := by
      simp [write, stringText]
    rw [hread, written]
    change (readString (s.toList.flatMap escapedChar ++ '"' :: rest) >>= fun read =>
      Except.ok (Json.str read.1, read.2)) = _
    rw [readString_written]
    rfl
  | @arr room items _ ih =>
    have parts : List.Forall₂ (ReadsAs (readValue room))
        (writeItems layout (depth + 1) items) items := by
      rw [writeItems_eq_map, List.forall₂_map_left_iff, List.forall₂_same]
      exact fun item hitem => ih item hitem (depth + 1)
    obtain ⟨body, text, read⟩ :=
      (partsReader_readItems (readValue room)).readAll_written gapped depth '[' parts
    refine ⟨⟨'[', body, text, by decide⟩, fun rest _ => ?_⟩
    rw [write, text]
    change (readItems (readValue room) (body ++ rest) >>= fun read =>
      Except.ok (Json.arr read.1, read.2)) = _
    rw [read rest]
    rfl
  | @obj room members distinct _ ih =>
    have parts : List.Forall₂ (ReadsAs (readMember (readValue room)))
        (writeMembers layout (depth + 1) members) members := by
      rw [writeMembers_eq_map, List.forall₂_map_left_iff, List.forall₂_same]
      exact fun member hmember => readsAs_member gapped (ih member hmember (depth + 1)) member.1
    obtain ⟨body, text, read⟩ :=
      (partsReader_readMembers (readValue room)).readAll_written gapped depth '{' parts
    have kept : Entries.insertAll [] members = members := Entries.insertAll_eq_append distinct
    refine ⟨⟨'{', body, text, by decide⟩, fun rest _ => ?_⟩
    rw [write, text]
    change (readMembers (readValue room) (body ++ rest) >>= fun read =>
      Except.ok (Json.obj (Entries.insertAll [] read.1), read.2)) = _
    rw [read rest]
    exact congrArg (fun members => Except.ok (Json.obj members, rest)) kept

end Reading

/-- **A value that is written is read back**, in every layout and with gaps after it. -/
theorem parse_write {layout : Layout} (gapped : layout.Gapped) {value : Json}
    (h : value.Fits Number.ReadsBack Reading.levels) {gaps : String} (blank : Blank gaps.toList) :
    parse (String.ofList (value.write layout 0) ++ gaps) = .ok value := by
  have ends : Ends gaps.toList := by
    have := Reading.ends_append blank Reading.ends_nil
    rwa [List.append_nil] at this
  have skipped : skipGaps gaps.toList = [] := by
    have := Reading.skipGaps_append blank []
    rwa [List.append_nil] at this
  have read : Reading.readDocument ((String.ofList (value.write layout 0) ++ gaps).toList) =
      .ok value := by
    rw [String.toList_append, String.toList_ofList, Reading.readDocument,
      (Reading.readsAs_write gapped h 0).read_eq _ ends]
    dsimp only [bind, Except.bind]
    rw [skipped]
    rfl
  rw [parse, read]

end PrivacyMapping.Json
