import PrivacyMapping.Proofs.Oscal.Writing

/-!
# Writing the same values again

After a write the first property of every pending name has the latest value of the name. A second
write of the same values still writes the earlier values of a name over it, but ends where it began:
seen as a whole, the entries overwrite the properties by what they are (`foldl_overwrite_eq_self`).
No name is missing any more, so the second write adds nothing. What it leaves is what one write at its
own time would have left (`write_again`).
-/

namespace PrivacyMapping.Oscal

/-! ## Properties that have their latest values -/

/-- Entries overwrite nothing where the first property of every name has its latest value. -/
theorem foldl_overwrite_eq_self {entries : List (String × String)} {items : List Json}
    (h : ∀ name item value, items.find? (isNamed name) = some item →
      latest? entries name = some value → withValue value item = item) :
    entries.foldl overwrite items = items := by
  refine List.ext_getElem? fun i => ?_
  cases hitem : items[i]? with
  | none =>
    rw [List.getElem?_eq_none_iff] at hitem ⊢
    rw [length_foldl_overwrite]
    exact hitem
  | some item =>
    obtain ⟨taken, untouched⟩ := getElem?_foldl_overwrite entries hitem
    by_cases hwritten : ∃ name value, FirstNamed name items i item ∧ latest? entries name = some value
    · obtain ⟨name, value, first, hvalue⟩ := hwritten
      rw [taken name value first hvalue, h name item value first.find?_eq hvalue]
    · refine untouched fun name first => Option.eq_none_iff_forall_ne_some.2 fun value hvalue => ?_
      exact hwritten ⟨name, value, first, hvalue⟩

theorem withValue_of_find?_foldl_put {entries : List (String × String)} {items : List Json}
    {name value : String} {item : Json} (hvalue : latest? entries name = some value)
    (found : (entries.foldl put items).find? (isNamed name) = some item) :
    withValue value item = item := by
  rw [find?_foldl_put (recognizes_isNamed name), hvalue] at found
  cases hitem : items.find? (isNamed name) with
  | none =>
    rw [hitem] at found
    obtain rfl := Option.some.inj found
    exact withValue_newProperty name value value
  | some old =>
    rw [hitem] at found
    obtain rfl := Option.some.inj found
    rw [Option.map_some, Option.getD_some,
      settle_of_named (isNamed_iff.1 (List.find?_some hitem)), withValue_withValue]

theorem any_foldl_put {entries : List (String × String)} {name : String}
    (h : name ∈ entries.map (·.1)) (items : List Json) :
    (entries.foldl put items).any (isNamed name) = true := by
  cases hvalue : latest? entries name with
  | none => exact absurd h (latest?_eq_none_iff.1 hvalue)
  | some value =>
    have found := find?_foldl_put (recognizes_isNamed name) entries items
    rw [hvalue] at found
    exact List.any_eq_true.2 ⟨_, List.mem_of_find?_eq_some found, List.find?_some found⟩

/-- Written again, the entries leave the properties as they are and are all reported as updates. -/
theorem writeEntries_again (pending : Pending) (items : List Json) :
    writeEntries pending (writeEntries pending items).1 =
      ((writeEntries pending items).1, { updated := pending.names, skipped := pending.skipped }) := by
  generalize written : (writeEntries pending items).1 = after
  rw [fst_writeEntries] at written
  have none_new : pending.newNames after = [] := by
    rw [newNames_eq, List.eq_nil_iff_forall_not_mem]
    intro name hname
    obtain ⟨present, unnamed⟩ := mem_newAmong.1 hname
    rw [← written, any_foldl_put present] at unnamed
    cases unnamed
  have unchanged : pending.entries.foldl overwrite after = after := by
    refine foldl_overwrite_eq_self fun name item value found hvalue => ?_
    rw [← written] at found
    exact withValue_of_find?_foldl_put hvalue found
  apply Prod.ext
  · rw [writeEntries_eq_append, none_new, unchanged, List.map_nil, List.append_nil]
  · rw [snd_writeEntries, none_new, List.diff_nil]

/-! ## Documents -/

/-- The sections of the document that a write leaves. -/
def Sections.afterWrite (s : Sections) (pending : Pending) (time : Timestamp) : Sections :=
  let properties := (writeEntries pending s.properties).1
  let characteristics := s.characteristics.insert "props" (.arr properties)
  let metadata := s.metadata.insert "last-modified" (.str time.text)
  let plan := (s.plan.insert characteristicsKey (.obj characteristics)).insert "metadata" (.obj metadata)
  { document := s.document.insert planKey (.obj plan), plan, metadata, characteristics, properties }

theorem hasSections_written (s : Sections) (pending : Pending) (time : Timestamp) :
    HasSections (s.written pending time) (s.afterWrite pending time) := by
  have other : characteristicsKey ≠ "metadata" := by decide
  constructor
  · rfl
  · exact Entries.get?_insert_self _ _ _
  · simp only [Sections.afterWrite, Entries.get?_insert_self, Option.getD_some]
  · simp only [Sections.afterWrite, Entries.get?_insert_of_ne _ _ other, Entries.get?_insert_self,
      Option.getD_some]
  · simp only [Sections.afterWrite, Entries.get?_insert_self, Option.getD_some]

theorem written_afterWrite (s : Sections) (pending : Pending) (first second : Timestamp) :
    (s.afterWrite pending first).written pending second = s.written pending second := by
  have other : characteristicsKey ≠ "metadata" := by decide
  -- the second write finds the characteristics that it puts into the plan
  have unchanged : ∀ characteristics metadata : Json,
      ((s.plan.insert characteristicsKey characteristics).insert "metadata" metadata).insert
          characteristicsKey characteristics =
        (s.plan.insert characteristicsKey characteristics).insert "metadata" metadata := by
    intro characteristics metadata
    apply Entries.insert_eq_self
    rw [Entries.get?_insert_of_ne _ _ other, Entries.get?_insert_self]
  simp only [Sections.written, Sections.afterWrite, writeEntries_again, Entries.insert_insert,
    unchanged]

variable {document written : Json} {pending : Pending} {first : Timestamp} {report : Report}

/-- **Writing again changes nothing but the time.** A second write of the same values, on the document
that the first one left, succeeds, adds no property and reports every entry as an update. It leaves the
document that a single write at its time leaves. -/
theorem write_again (h : write document pending first = .ok (written, report)) (second : Timestamp) :
    ∃ last,
      write written pending second =
        .ok (last, { updated := pending.names, added := [], skipped := pending.skipped }) ∧
      write document pending second = .ok (last, report) ∧
      (second = first → last = written) := by
  obtain ⟨s, hs, rfl, rfl⟩ := write_eq_ok_iff.1 h
  refine ⟨s.written pending second, ?_, write_eq_ok_iff.2 ⟨s, hs, rfl, rfl⟩, fun same => by rw [same]⟩
  refine write_eq_ok_iff.2 ⟨_, hasSections_written s pending first, ?_, ?_⟩
  · rw [written_afterWrite]
  · have again := congrArg Prod.snd (writeEntries_again pending s.properties)
    exact again.symm

/-- A year after the first write. -/
def laterTime : Timestamp :=
  { sampleTime with year := 2027, year_lt := by decide, day_lt := by decide }

/-- The names `a` and `b` have two values each, so the second write sets each of them back and forth. -/
theorem write_again_repeated_names :
    write sampleDocument samplePending sampleTime =
      .ok (sampleWritten, { updated := ["b", "a", "b"], added := ["a"] }) ∧
    ∃ last,
      write sampleWritten samplePending laterTime =
        .ok (last, { updated := ["a", "b", "a", "b"], added := [], skipped := [] }) ∧
      write sampleDocument samplePending laterTime =
        .ok (last, { updated := ["b", "a", "b"], added := ["a"] }) ∧
      (laterTime = sampleTime → last = sampleWritten) :=
  have h : write sampleDocument samplePending sampleTime =
      .ok (sampleWritten, { updated := ["b", "a", "b"], added := ["a"] }) := rfl
  ⟨h, write_again h laterTime⟩

end PrivacyMapping.Oscal
