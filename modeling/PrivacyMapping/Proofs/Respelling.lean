import PrivacyMapping.Proofs.Normalization
import PrivacyMapping.Proofs.Text.Casing

/-!
# Steps that respell

Lower case and trimming only respell a value: each makes a string of its string form, and neither makes
a value blank that was not. As they commute and repeating one changes nothing, a run of such steps
depends only on which of the two are among them (`normalize_respelling`). In particular the order in
which an entry asks for both is as good as the other one.
-/

namespace PrivacyMapping.Normalization

/-- The step makes the string `respell s` of a value with the string form `s`. -/
inductive Respells : Step → (String → String) → Prop
  | lowercase : Respells .lowercase Text.lowercase
  | trim : Respells .trim Text.trim

namespace Respells

variable {step other : Step} {f g : String → String}

theorem isBlank_eq (h : Respells step f) (s : String) : Text.isBlank (f s) = Text.isBlank s := by
  cases h with
  | lowercase => exact Text.isBlank_lowercase s
  | trim => exact Text.isBlank_trim s

theorem idem (h : Respells step f) (s : String) : f (f s) = f s := by
  cases h with
  | lowercase => exact Text.lowercase_lowercase s
  | trim => exact Text.trim_trim s

theorem comm (h : Respells step f) (h' : Respells other g) (s : String) : f (g s) = g (f s) := by
  cases h <;> cases h'
  case lowercase.lowercase => rfl
  case lowercase.trim => exact (Text.trim_lowercase s).symm
  case trim.lowercase => exact Text.trim_lowercase s
  case trim.trim => rfl

/-! ## Steps on lists -/

theorem apply_eq (h : Respells step f) (values : List Json) :
    step.apply values = values.map fun value => .str (f value.stringForm) := by
  cases h <;> exact congrFun List.filterMap_eq_map values

theorem apply_apply (h : Respells step f) (h' : Respells other g) (values : List Json) :
    other.apply (step.apply values) = values.map fun value => .str (g (f value.stringForm)) := by
  rw [h'.apply_eq, h.apply_eq, List.map_map]
  rfl

theorem dropBlank_apply (h : Respells step f) (values : List Json) :
    dropBlank (step.apply values) = step.apply (dropBlank values) := by
  have blank : ∀ value : Json, (Json.str (f value.stringForm)).isBlank = value.isBlank :=
    fun value => (h.isBlank_eq value.stringForm).trans (Normalization.isBlank_eq value).symm
  rw [h.apply_eq, h.apply_eq, dropBlank, dropBlank, List.filter_map]
  simp only [Function.comp_def, blank]

theorem normalize_pair (h : Respells step f) (h' : Respells other g) (values : List Json) :
    normalize values [step, other] =
      (dropBlank values).map fun value => .str (g (f value.stringForm)) := by
  rw [normalize_cons, normalize_cons, normalize_nil, h'.dropBlank_apply, dropBlank_dropBlank,
    h.dropBlank_apply, dropBlank_dropBlank, h.apply_apply h']

theorem normalize_swap (h : Respells step f) (h' : Respells other g) (values : List Json) :
    normalize values [step, other] = normalize values [other, step] := by
  rw [h.normalize_pair h', h'.normalize_pair h]
  simp only [h.comm h']

theorem normalize_again (h : Respells step f) (values : List Json) :
    normalize values [step, step] = normalize values [step] := by
  rw [h.normalize_pair h, normalize_cons, normalize_nil, h.dropBlank_apply, dropBlank_dropBlank,
    h.apply_eq]
  simp only [h.idem]

end Respells

/-! ## Runs -/

/-- The steps only respell. -/
def OnlyRespell (steps : List Step) : Prop :=
  ∀ step ∈ steps, ∃ respell, Respells step respell

variable {steps more : List Step}

theorem normalize_perm (respelling : OnlyRespell steps) (h : steps.Perm more) (values : List Json) :
    normalize values steps = normalize values more := by
  induction h generalizing values with
  | nil => rfl
  | cons step _ ih =>
    rw [normalize_cons, normalize_cons]
    exact ih (fun other hother => respelling other (List.mem_cons_of_mem _ hother)) _
  | swap first second rest =>
    obtain ⟨f, hfirst⟩ := respelling first (by simp)
    obtain ⟨g, hsecond⟩ := respelling second (by simp)
    have split : ∀ x y : Step, x :: y :: rest = [x, y] ++ rest := fun _ _ => rfl
    rw [split, split, normalize_append, normalize_append, hsecond.normalize_swap hfirst]
  | trans h _ ih ih' =>
    rw [ih respelling, ih' fun step hstep => respelling step (h.mem_iff.2 hstep)]

theorem normalize_cons_of_mem (respelling : OnlyRespell steps) {step : Step} (h : step ∈ steps)
    (values : List Json) : normalize values (step :: steps) = normalize values steps := by
  obtain ⟨f, hstep⟩ := respelling step h
  obtain ⟨rest, gathered⟩ : ∃ rest, steps.Perm (step :: rest) := by
    obtain ⟨front, back, rfl⟩ := List.append_of_mem h
    exact ⟨front ++ back, List.perm_middle⟩
  have twice : OnlyRespell (step :: steps) := List.forall_mem_cons.2 ⟨⟨f, hstep⟩, respelling⟩
  have split : step :: step :: rest = [step, step] ++ rest := rfl
  rw [normalize_perm twice (gathered.cons step), normalize_perm respelling gathered, split,
    normalize_append, hstep.normalize_again, ← normalize_append, List.singleton_append]

theorem normalize_append_of_subset (respelling : OnlyRespell steps) (h : ∀ step ∈ more, step ∈ steps)
    (values : List Json) : normalize values (more ++ steps) = normalize values steps := by
  induction more with
  | nil => rfl
  | cons step rest ih =>
    obtain ⟨hstep, hrest⟩ := List.forall_mem_cons.1 h
    have others : OnlyRespell (rest ++ steps) := by
      intro other hother
      exact respelling other ((List.mem_append.1 hother).elim (hrest other) id)
    rw [List.cons_append, normalize_cons_of_mem others (List.mem_append_right _ hstep), ih hrest]

/-- Runs of the same steps that respell, in whatever order and number, leave the same. -/
theorem normalize_of_same_steps (respelling : OnlyRespell steps) (same : ∀ step, step ∈ steps ↔ step ∈ more)
    (values : List Json) : normalize values steps = normalize values more := by
  have respelling' : OnlyRespell more := fun step hstep => respelling step ((same step).2 hstep)
  have joined : OnlyRespell (more ++ steps) :=
    fun step hstep => (List.mem_append.1 hstep).elim (respelling' step) (respelling step)
  calc normalize values steps
    _ = normalize values (more ++ steps) :=
        (normalize_append_of_subset respelling (fun step => (same step).2) values).symm
    _ = normalize values (steps ++ more) := normalize_perm joined List.perm_append_comm values
    _ = normalize values more :=
        normalize_append_of_subset respelling' (fun step => (same step).1) values

theorem normalize_between (respelling : OnlyRespell steps) (same : ∀ step, step ∈ steps ↔ step ∈ more)
    (before after : List Step) (values : List Json) :
    normalize values (before ++ steps ++ after) = normalize values (before ++ more ++ after) := by
  simp only [normalize_append, normalize_of_same_steps respelling same]

/-! ## Entries -/

theorem exists_stepsOf_flags {members : Entries Json}
    (lowercase : Entries.get? members "lowercase" = some (.bool true))
    (trim : Entries.get? members "trim" = some (.bool true)) :
    ∃ front, stepsOf (.obj members) = front ++ [.lowercase, .trim] := by
  simp only [stepsOf, lowercase, trim, List.append_assoc]
  exact ⟨_, (List.append_assoc _ _ _).symm⟩

theorem onlyRespell_of_flags (h : ∀ step ∈ steps, step = .lowercase ∨ step = .trim) :
    OnlyRespell steps := by
  intro step hstep
  rcases h step hstep with rfl | rfl
  · exact ⟨_, .lowercase⟩
  · exact ⟨_, .trim⟩

/-- **Lower case and trimming commute, and once is enough.** Two runs of such steps alone leave the same
of all values if the same steps are among them, in whatever order and number. So an entry with both
flags could ask for them in the other order as well, and an entry with nothing but these flags could
stand there twice. -/
theorem normalize_respelling :
    (∀ steps more : List Step, (∀ step ∈ steps, step = .lowercase ∨ step = .trim) →
      (∀ step, step ∈ steps ↔ step ∈ more) →
        ∀ values, normalize values steps = normalize values more) ∧
    (∀ members : Entries Json, Entries.get? members "lowercase" = some (.bool true) →
      Entries.get? members "trim" = some (.bool true) →
        ∃ front, stepsOf (.obj members) = front ++ [.lowercase, .trim] ∧
          ∀ values before after,
            normalize values (before ++ (front ++ [.trim, .lowercase]) ++ after) =
              normalize values (before ++ stepsOf (.obj members) ++ after)) ∧
    ∀ entry, (∀ step ∈ stepsOf entry, step = .lowercase ∨ step = .trim) →
      ∀ values before after,
        normalize values (before ++ (stepsOf entry ++ stepsOf entry) ++ after) =
          normalize values (before ++ stepsOf entry ++ after) := by
  refine ⟨fun steps more flags same => ?_, fun members lowercase trim => ?_, fun entry flags => ?_⟩
  · exact normalize_of_same_steps (onlyRespell_of_flags flags) same
  · obtain ⟨front, asked⟩ := exists_stepsOf_flags lowercase trim
    refine ⟨front, asked, fun values before after => ?_⟩
    have flags : OnlyRespell [.trim, .lowercase] := onlyRespell_of_flags (by simp)
    have same : ∀ step, step ∈ [Step.trim, .lowercase] ↔ step ∈ [Step.lowercase, .trim] := by
      simp [or_comm]
    rw [asked, ← List.append_assoc before, ← List.append_assoc before]
    exact normalize_between flags same (before ++ front) after values
  · intro values before after
    have twice : OnlyRespell (stepsOf entry ++ stepsOf entry) :=
      onlyRespell_of_flags fun step hstep => flags step ((List.mem_append.1 hstep).elim id id)
    exact normalize_between twice (by simp) before after values

/-- Capital sigmas at the end of a word and alone, between white space and in the text of an object, and
a dotted capital I. -/
def capitalValues : List Json :=
  [.str "  ΟΔΟΣ\u00A0", .null, .obj [("Σ", .str "AΣ")], .str "Σ ", .str "\u3000", .str "İ\t"]

/-- An entry with both flags and a mask. -/
def flaggedMembers : Entries Json :=
  [("trim", .bool true), ("mask", .str "Σ "), ("lowercase", .bool true)]

theorem normalize_respelling_sigmas :
    ((∀ step ∈ [Step.trim, .lowercase, .trim], step = .lowercase ∨ step = .trim) ∧
      (∀ step, step ∈ [Step.trim, .lowercase, .trim] ↔ step ∈ [Step.lowercase, .trim]) ∧
      normalize capitalValues [.trim, .lowercase, .trim] =
        normalize capitalValues [.lowercase, .trim] ∧
      (normalize capitalValues [.lowercase, .trim]).map Json.stringForm =
        ["οδος", "\x7b\"σ\":\"aς\"\x7d", "σ", "i\u0307"]) ∧
    (Entries.get? flaggedMembers "lowercase" = some (.bool true) ∧
      Entries.get? flaggedMembers "trim" = some (.bool true) ∧
      normalize capitalValues [.mask ["Σ "], .trim, .lowercase] =
        normalize capitalValues (stepsOf (.obj flaggedMembers))) := by
  have flags : ∀ step ∈ [Step.trim, .lowercase, .trim], step = .lowercase ∨ step = .trim := by simp
  have same : ∀ step, step ∈ [Step.trim, .lowercase, .trim] ↔ step ∈ [Step.lowercase, .trim] := by
    simp [or_comm]
  obtain ⟨alike, swapped, -⟩ := normalize_respelling
  obtain ⟨front, asked, stands⟩ := swapped flaggedMembers rfl rfl
  have steps : stepsOf (.obj flaggedMembers) = [.mask ["Σ "]] ++ [.lowercase, .trim] := rfl
  obtain rfl := List.append_cancel_right (steps.symm.trans asked)
  have swappedRun := stands capitalValues [] []
  rw [List.nil_append, List.append_nil, List.nil_append, List.append_nil] at swappedRun
  exact ⟨⟨flags, same, alike _ _ flags same capitalValues, by decide +kernel⟩, rfl, rfl, swappedRun⟩

end PrivacyMapping.Normalization
