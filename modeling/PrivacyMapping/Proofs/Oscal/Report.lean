import PrivacyMapping.Proofs.Oscal.Properties
import Mathlib.Data.List.Nodup
import Mathlib.Data.List.Perm.Basic

/-!
# What a write reports

An entry is reported as an addition if no property has its name by then, and as an update otherwise.
By then the properties may have grown by earlier entries, but a name that was added is reported as
updated from then on. So the report can be read off the properties before the write and the names of
the entries (`snd_writeEntries`): the added names are those that no property had, each at its first
entry, and all other entries are updates.
-/

namespace PrivacyMapping.Oscal

/-! ## First appearances -/

theorem pairwise_idxOf_eraseDups (p : String → Bool) (names : List String) :
    (names.filter p).eraseDups.Pairwise fun first second =>
      names.idxOf first < names.idxOf second := by
  induction names generalizing p with
  | nil => exact List.Pairwise.nil
  | cons name rest ih =>
    -- places among the other names, one further on
    have shifted : ∀ q : String → Bool, (∀ other, q other = true → other ≠ name) →
        (rest.filter q).eraseDups.Pairwise fun first second =>
          (name :: rest).idxOf first < (name :: rest).idxOf second := by
      intro q others
      refine (ih q).imp_of_mem fun {first second} hfirst hsecond below => ?_
      have notFirst := others first (List.mem_filter.1 (List.mem_eraseDups.1 hfirst)).2
      have notSecond := others second (List.mem_filter.1 (List.mem_eraseDups.1 hsecond)).2
      rw [List.idxOf_cons_ne _ notFirst.symm, List.idxOf_cons_ne _ notSecond.symm]
      exact Nat.succ_lt_succ below
    by_cases hname : p name = true
    · rw [List.filter_cons_of_pos hname, List.eraseDups_cons, List.filter_filter]
      refine List.pairwise_cons.2 ⟨?_, shifted _ fun other hother => ?_⟩
      · intro other hother
        have differs : other ≠ name := by
          have := (List.mem_filter.1 (List.mem_eraseDups.1 hother)).2
          rw [Bool.and_eq_true] at this
          simpa using this.1
        rw [List.idxOf_cons_self, List.idxOf_cons_ne _ differs.symm]
        exact Nat.succ_pos _
      · rw [Bool.and_eq_true] at hother
        simpa using hother.1
    · rw [List.filter_cons_of_neg hname]
      apply shifted
      rintro other hother rfl
      exact hname hother

theorem nodup_eraseDups_filter (p : String → Bool) (names : List String) :
    (names.filter p).eraseDups.Nodup := by
  refine (pairwise_idxOf_eraseDups p names).imp fun {first second} below => ?_
  rintro rfl
  exact Nat.lt_irrefl _ below

/-! ## One entry -/

theorem setFirst?_of_any {name : String} (value : String) {items : List Json}
    (h : items.any (isNamed name) = true) :
    setFirst? name value items = some (overwrite items (name, value)) := by
  induction items with
  | nil => simp at h
  | cons item rest ih =>
    rw [setFirst?, overwrite_cons]
    by_cases hitem : isNamed name item = true
    · rw [if_pos hitem, if_pos hitem]
    · rw [List.any_cons, Bool.or_eq_true, or_iff_right hitem] at h
      rw [if_neg hitem, if_neg hitem, ih h, Option.map_some]

theorem setFirst?_of_not_any {name : String} (value : String) {items : List Json}
    (h : items.any (isNamed name) = false) : setFirst? name value items = none := by
  induction items with
  | nil => rfl
  | cons item rest ih =>
    rw [List.any_cons, Bool.or_eq_false_iff] at h
    rw [setFirst?, h.1, ih h.2]
    rfl

theorem writeEntry_of_any {items : List Json} {entry : String × String}
    (h : items.any (isNamed entry.1) = true) (report : Report) :
    writeEntry (items, report) entry =
      (overwrite items entry, { report with updated := report.updated ++ [entry.1] }) := by
  simp only [writeEntry, setFirst?_of_any entry.2 h]

theorem writeEntry_of_not_any {items : List Json} {entry : String × String}
    (h : items.any (isNamed entry.1) = false) (report : Report) :
    writeEntry (items, report) entry =
      (items ++ [newProperty entry.1 entry.2],
        { report with added := report.added ++ [entry.1] }) := by
  simp only [writeEntry, setFirst?_of_not_any entry.2 h]

/-! ## All entries -/

/-- The names that no item has, each where it first appears. -/
def newAmong (items : List Json) (names : List String) : List String :=
  (names.filter fun name => !items.any (isNamed name)).eraseDups

theorem newNames_eq (pending : Pending) (items : List Json) :
    pending.newNames items = newAmong items pending.names := by
  simp only [Pending.newNames, newAmong, not_any_isNamed]

theorem mem_newAmong {items : List Json} {name : String} {names : List String} :
    name ∈ newAmong items names ↔ name ∈ names ∧ items.any (isNamed name) = false := by
  rw [newAmong, List.mem_eraseDups, List.mem_filter, Bool.not_eq_true']

theorem newAmong_cons_of_any {items : List Json} {name : String}
    (h : items.any (isNamed name) = true) (names : List String) :
    newAmong items (name :: names) = newAmong items names := by
  rw [newAmong, List.filter_cons_of_neg (by simp [h])]
  rfl

theorem newAmong_cons_of_not_any {items : List Json} {name : String}
    (h : items.any (isNamed name) = false) (value : String) (names : List String) :
    newAmong items (name :: names) = name :: newAmong (items ++ [newProperty name value]) names := by
  rw [newAmong, List.filter_cons_of_pos (by simp [h]), List.eraseDups_cons, List.filter_filter, newAmong]
  refine congrArg (fun others => name :: List.eraseDups others) (List.filter_congr fun other _ => ?_)
  rw [List.any_append, List.any_cons, List.any_nil, isNamed_newProperty, Bool.or_false, Bool.not_or,
    Bool.and_comm, BEq.comm]

/-- What a run of entries adds to a report: the names that are new among the items at its start, and
as updates all others, the new ones from their second entry on included. -/
theorem snd_foldl_writeEntry (entries : List (String × String)) (items : List Json)
    (report : Report) :
    (entries.foldl writeEntry (items, report)).2 =
      { report with
        updated := report.updated ++ (entries.map (·.1)).diff (newAmong items (entries.map (·.1)))
        added := report.added ++ newAmong items (entries.map (·.1)) } := by
  induction entries generalizing items report with
  | nil => simp [newAmong]
  | cons entry rest ih =>
    rw [List.foldl_cons, List.map_cons]
    by_cases known : items.any (isNamed entry.1) = true
    · have same : newAmong (overwrite items entry) (rest.map (·.1)) = newAmong items (rest.map (·.1)) := by
        simp only [newAmong, any_overwrite]
      have old : entry.1 ∉ newAmong items (rest.map (·.1)) := by
        rw [mem_newAmong, known]
        simp
      rw [writeEntry_of_any known, ih, same, newAmong_cons_of_any known,
        List.cons_diff_of_not_mem old]
      simp
    · have unknown : items.any (isNamed entry.1) = false := by simpa using known
      rw [writeEntry_of_not_any unknown, ih, newAmong_cons_of_not_any unknown entry.2, List.diff_cons,
        List.erase_cons_head]
      simp

/-- The report of a write: the new names are added, and all other entries are updates. -/
theorem snd_writeEntries (pending : Pending) (items : List Json) :
    (writeEntries pending items).2 =
      { updated := pending.names.diff (pending.newNames items)
        added := pending.newNames items
        skipped := pending.skipped } := by
  rw [writeEntries, snd_foldl_writeEntry, newNames_eq]
  rfl

theorem diff_newNames_append_perm (pending : Pending) (items : List Json) :
    (pending.names.diff (pending.newNames items) ++ pending.newNames items).Perm pending.names := by
  refine List.perm_append_comm.trans (List.subperm_append_diff_self_of_count_le fun name hname => ?_)
  have once : (pending.newNames items).Nodup := nodup_eraseDups_filter _ _
  have present : name ∈ pending.names := by
    rw [newNames_eq] at hname
    exact (mem_newAmong.1 hname).1
  calc (pending.newNames items).count name
      ≤ 1 := List.nodup_iff_count_le_one.1 once name
    _ ≤ pending.names.count name := List.one_le_count_iff.2 present

/-- A report of the entries that turned the items before into those after. The added names are those
that no item had, each once and in the order in which they first appear, and each of them has its item
behind the earlier ones. All other entries are updates, also those that repeat an added name. -/
structure Reports (pending : Pending) (before after : List Json) (report : Report) : Prop where
  skipped : report.skipped = pending.skipped
  mem_added : ∀ name, name ∈ report.added ↔
    name ∈ pending.names ∧ ∀ item ∈ before, ¬ Named name item
  once : report.added.Nodup
  ordered : report.added.Pairwise fun first second =>
    pending.names.idxOf first < pending.names.idxOf second
  appended : ∃ kept new, after = kept ++ new ∧ kept.length = before.length ∧
    new.Forall₂ (fun item name => ∃ value, pending.get? name = some value ∧
      item = .obj [("name", .str name), ("value", .str value)]) report.added
  updated : report.updated = pending.names.diff report.added
  complete : (report.updated ++ report.added).Perm pending.names

theorem reports_writeEntries (pending : Pending) (items : List Json) :
    Reports pending items (writeEntries pending items).1 (writeEntries pending items).2 := by
  have report := snd_writeEntries pending items
  constructor
  case skipped => rw [report]
  case mem_added =>
    intro name
    rw [report, newNames_eq, mem_newAmong, List.any_eq_false]
    simp only [isNamed_iff]
  case once =>
    rw [report, newNames_eq]
    exact nodup_eraseDups_filter _ _
  case ordered =>
    rw [report, newNames_eq]
    exact pairwise_idxOf_eraseDups _ _
  case appended =>
    refine ⟨_, _, writeEntries_eq_append pending items, length_foldl_overwrite _ _, ?_⟩
    rw [report]
    exact forall₂_newProperty pending items
  case updated => rw [report]
  case complete =>
    rw [report]
    exact diff_newNames_append_perm pending items

theorem length_report_writeEntries (pending : Pending) (items : List Json) :
    (writeEntries pending items).2.updated.length + (writeEntries pending items).2.added.length =
      pending.entries.length := by
  have length := (diff_newNames_append_perm pending items).length_eq
  rw [snd_writeEntries, ← List.length_append]
  exact length.trans (List.length_map _)

end PrivacyMapping.Oscal
