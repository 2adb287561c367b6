import PrivacyMapping.Selector
import PrivacyMapping.Proofs.Text.Pieces

/-!
# Written selectors

Reading a selector loses nothing. What has been read is written again as the path that was read, down to
leading and doubled dots and repeated marks, and it is always legible: dots stand between its parts only,
and a key ends in a mark only in a part that has one of its own. The other way round, every legible
selector is read back from its path. Paths and legible selectors thus stand for each other one to one
(`parse_lossless`).
-/

namespace PrivacyMapping

/-! ## Parts -/

namespace Segment

theorem unmarked?_eq_some_iff {cs key : List Char} : unmarked? cs = some key ↔ cs = key ++ marker := by
  rw [unmarked?]
  constructor
  · intro found
    split_ifs at found with marked
    obtain rfl := Option.some.inj found
    exact (List.suffix_iff_eq_append.1 (List.isSuffixOf_iff_suffix.1 marked)).symm
  · rintro rfl
    have marked : marker.isSuffixOf (key ++ marker) = true :=
      List.isSuffixOf_iff_suffix.2 (List.suffix_append key marker)
    rw [if_pos marked, List.length_append, Nat.add_sub_cancel, List.take_left]

theorem unmarked?_eq_none_iff {cs : List Char} : unmarked? cs = none ↔ ¬ marker <:+ cs := by
  rw [Option.eq_none_iff_forall_ne_some]
  constructor
  · rintro unmarked ⟨key, rfl⟩
    exact unmarked key (unmarked?_eq_some_iff.2 rfl)
  · intro unmarked key found
    exact unmarked ⟨key, (unmarked?_eq_some_iff.1 found).symm⟩

/-- A part that can be told from its text: no dot cuts its key in two, and a mark at the end of the key is
not taken for one of the part. -/
structure IsLegible (segment : Segment) : Prop where
  dotless : '.' ∉ segment.key.toList
  unmarked : segment.wildcard = false → ¬ marker <:+ segment.key.toList

theorem chars_ofChars (cs : List Char) : (ofChars cs).chars = cs := by
  rw [ofChars]
  cases found : unmarked? cs with
  | none => simp [chars]
  | some key => simp [chars, unmarked?_eq_some_iff.1 found]

theorem isLegible_ofChars {cs : List Char} (dotless : '.' ∉ cs) : (ofChars cs).IsLegible := by
  rw [ofChars]
  cases found : unmarked? cs with
  | none =>
    refine ⟨by simpa using dotless, fun _ => ?_⟩
    simpa using unmarked?_eq_none_iff.1 found
  | some key =>
    obtain rfl := unmarked?_eq_some_iff.1 found
    refine ⟨?_, nofun⟩
    simpa using fun inside => dotless (List.mem_append_left marker inside)

theorem ofChars_chars {segment : Segment} (h : segment.IsLegible) : ofChars segment.chars = segment := by
  obtain ⟨key, wildcard⟩ := segment
  cases wildcard with
  | true =>
    have found : unmarked? (chars ⟨key, true⟩) = some key.toList := unmarked?_eq_some_iff.2 rfl
    simp [ofChars, found]
  | false =>
    have text : chars ⟨key, false⟩ = key.toList := by simp [chars]
    rw [text, ofChars, unmarked?_eq_none_iff.2 (h.unmarked rfl)]
    simp

theorem IsLegible.dot_not_mem_chars {segment : Segment} (h : segment.IsLegible) :
    '.' ∉ segment.chars := by
  rw [chars, List.mem_append, not_or]
  refine ⟨h.dotless, ?_⟩
  split_ifs
  · decide
  · exact List.not_mem_nil

end Segment

/-! ## Whole selectors -/

namespace Selector

/-- A selector that can be told from its path. The source may well end in a mark, which is part of its
name. -/
structure IsLegible (selector : Selector) : Prop where
  dotless : '.' ∉ selector.source.toList
  segments : ∀ segment ∈ selector.segments, segment.IsLegible

/-- The text of a selector: the source, then for each part a dot, the key, and a mark if it has one. -/
def assembled (selector : Selector) : String :=
  selector.source ++ String.join (selector.segments.map fun segment =>
    "." ++ segment.key ++ if segment.wildcard then "[*]" else "")

theorem path_eq_joined (selector : Selector) :
    selector.path = String.ofList
      (Text.joined '.' selector.source.toList (selector.segments.map Segment.chars)) := by
  rw [path, Text.joined, List.flatMap_map]

theorem assembled_eq_path (selector : Selector) : selector.assembled = selector.path := by
  have part : ∀ segment : Segment,
      ("." ++ segment.key ++ if segment.wildcard then "[*]" else "").toList = '.' :: segment.chars := by
    rintro ⟨key, wildcard⟩
    cases wildcard <;> simp [Segment.chars, Segment.marker]
  apply String.toList_injective
  simp only [assembled, path, String.toList_append, String.toList_join, String.toList_ofList,
    List.flatMap_map, part]

theorem path_parse (path : String) : (parse path).path = path := by
  rw [path_eq_joined, parse]
  simp [Segment.chars_ofChars, Function.comp_def, Text.joined_pieces]

theorem isLegible_parse (path : String) : (parse path).IsLegible := by
  obtain ⟨first, others⟩ := List.forall_mem_cons.1 (Text.not_mem_pieces '.' path.toList)
  refine ⟨by simpa [parse] using first, fun segment hsegment => ?_⟩
  obtain ⟨piece, hpiece, rfl⟩ := List.mem_map.1 hsegment
  exact Segment.isLegible_ofChars (others piece hpiece)

theorem parse_path {selector : Selector} (h : selector.IsLegible) : parse selector.path = selector := by
  -- only the dots between the parts cut the path
  have dotless : ∀ piece ∈ selector.source.toList :: selector.segments.map Segment.chars,
      '.' ∉ piece := by
    refine List.forall_mem_cons.2 ⟨h.dotless, fun piece hpiece => ?_⟩
    obtain ⟨segment, hsegment, rfl⟩ := List.mem_map.1 hpiece
    exact (h.segments segment hsegment).dot_not_mem_chars
  have readBack : selector.segments.map (Segment.ofChars ∘ Segment.chars) = selector.segments := by
    calc selector.segments.map (Segment.ofChars ∘ Segment.chars)
      _ = selector.segments.map id := List.map_congr_left fun segment hsegment =>
        Segment.ofChars_chars (h.segments segment hsegment)
      _ = selector.segments := List.map_id _
  rw [path_eq_joined, parse, String.toList_ofList, Text.pieces_joined dotless]
  simp [readBack]

/-- **Paths and legible selectors stand for each other.** What is read from a path is legible, and the
path is what it is assembled to and shown as. A legible selector is read back from the text that it is
assembled to, and its marked parts are counted, whether or not its source ends in a mark. -/
theorem parse_lossless :
    (∀ path, (parse path).assembled = path ∧ (parse path).path = path ∧ (parse path).IsLegible) ∧
    ∀ selector : Selector, selector.IsLegible →
      parse selector.assembled = selector ∧
      (parse selector.assembled).wildcardCount = (selector.segments.filter (·.wildcard)).length := by
  constructor
  · intro path
    rw [assembled_eq_path]
    exact ⟨path_parse path, path_parse path, isLegible_parse path⟩
  · intro selector legible
    rw [assembled_eq_path, parse_path legible]
    exact ⟨rfl, List.countP_eq_length_filter⟩

/-- A selector with empty keys, a part that is only a mark, marks within and before keys, and a source
that ends in one. -/
def oddSelector : Selector where
  source := "a[*]"
  segments := [⟨"", false⟩, ⟨"", true⟩, ⟨"b[*]", true⟩, ⟨"[*]c", false⟩, ⟨"", false⟩]

theorem parse_lossless_odd_selector :
    oddSelector.IsLegible ∧
    oddSelector.assembled = "a[*]..[*].b[*][*].[*]c." ∧
    parse "a[*]..[*].b[*][*].[*]c." = oddSelector ∧
    (parse "a[*]..[*].b[*][*].[*]c.").wildcardCount = 2 := by
  have legible : oddSelector.IsLegible := by
    refine ⟨by decide, fun segment hsegment => ?_⟩
    have decided : ∀ segment ∈ oddSelector.segments, '.' ∉ segment.key.toList ∧
        (segment.wildcard = false → ¬ Segment.marker <:+ segment.key.toList) := by decide
    exact ⟨(decided segment hsegment).1, (decided segment hsegment).2⟩
  have written : oddSelector.assembled = "a[*]..[*].b[*][*].[*]c." := by decide
  obtain ⟨readBack, count⟩ := parse_lossless.2 oddSelector legible
  rw [written] at readBack count
  exact ⟨legible, written, readBack, count⟩

end Selector

end PrivacyMapping
