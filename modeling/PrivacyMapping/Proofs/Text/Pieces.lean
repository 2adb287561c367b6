import PrivacyMapping.Text.Pieces
import Mathlib.Data.List.Basic

/-!
# Pieces and their join

Cutting a text at a separator loses nothing: the pieces, joined with the separator, are the text again
(`joined_pieces`), and no piece holds a separator. The other way round, pieces that hold none are found
again in their join (`pieces_joined`).
-/

namespace PrivacyMapping.Text

/-- Pieces with the separator between them. -/
def joined (separator : Char) (first : List Char) (more : List (List Char)) : List Char :=
  first ++ more.flatMap (separator :: ·)

variable {separator : Char}

theorem joined_cons (first piece : List Char) (more : List (List Char)) :
    joined separator first (piece :: more) = first ++ separator :: joined separator piece more := by
  simp [joined]

/-! ## The pieces of a text -/

theorem joined_pieces (cs : List Char) :
    joined separator (pieces separator cs).1 (pieces separator cs).2 = cs := by
  induction cs with
  | nil => rfl
  | cons c rest ih =>
    rw [pieces]
    dsimp only
    split_ifs with same
    · rw [joined_cons, ih, List.nil_append, same]
    · rw [joined, List.cons_append, ← joined, ih]

theorem not_mem_pieces (separator : Char) (cs : List Char) :
    ∀ piece ∈ (pieces separator cs).1 :: (pieces separator cs).2, separator ∉ piece := by
  induction cs with
  | nil => simp [pieces]
  | cons c rest ih =>
    obtain ⟨first, others⟩ := List.forall_mem_cons.1 ih
    rw [pieces]
    dsimp only
    split_ifs with same
    · exact List.forall_mem_cons.2 ⟨List.not_mem_nil, ih⟩
    · refine List.forall_mem_cons.2 ⟨?_, others⟩
      exact List.not_mem_cons_of_ne_of_not_mem (Ne.symm same) first

/-! ## The pieces of a join -/

theorem pieces_of_not_mem {cs : List Char} (h : separator ∉ cs) : pieces separator cs = (cs, []) := by
  induction cs with
  | nil => rfl
  | cons c rest ih =>
    obtain ⟨differs, absent⟩ := List.ne_and_not_mem_of_not_mem_cons h
    rw [pieces, ih absent]
    dsimp only
    rw [if_neg (Ne.symm differs)]

theorem pieces_append_cons {front : List Char} (h : separator ∉ front) (rest : List Char) :
    pieces separator (front ++ separator :: rest) =
      (front, (pieces separator rest).1 :: (pieces separator rest).2) := by
  induction front with
  | nil =>
    rw [List.nil_append, pieces]
    dsimp only
    rw [if_pos rfl]
  | cons c front ih =>
    obtain ⟨differs, absent⟩ := List.ne_and_not_mem_of_not_mem_cons h
    rw [List.cons_append, pieces, ih absent]
    dsimp only
    rw [if_neg (Ne.symm differs)]

theorem pieces_joined {first : List Char} {more : List (List Char)}
    (h : ∀ piece ∈ first :: more, separator ∉ piece) :
    pieces separator (joined separator first more) = (first, more) := by
  induction more generalizing first with
  | nil =>
    rw [joined, List.flatMap_nil, List.append_nil]
    exact pieces_of_not_mem (h first List.mem_cons_self)
  | cons piece more ih =>
    obtain ⟨hfirst, hmore⟩ := List.forall_mem_cons.1 h
    rw [joined_cons, pieces_append_cons hfirst, ih hmore]

end PrivacyMapping.Text
