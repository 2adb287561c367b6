import PrivacyMapping.Proofs.Normalization

/-!
# Values are normalized one by one

A run of steps is a function of single values, and a run of more steps is one run after another
(`normalize_pointwise`). A table replaces a value once: what it puts in goes on to the next step as
it is, also where the table has an entry for it, and is gone if it is blank.
-/

namespace PrivacyMapping.Normalization

theorem normalize_of_isBlank {value : Json} (blank : value.isBlank = true) (steps : List Step) :
    normalize [value] steps = [] := by
  have dropped : dropBlank [value] = [] := by simp [dropBlank, blank]
  rw [← normalize_dropBlank, dropped, normalize_no_values]

theorem normalize_replace {value found replacement : Json} {before : List Step}
    {table : Entries Json} (reached : normalize [value] before = [found])
    (entry : Entries.get? table found.stringForm = some replacement) (after : List Step) :
    normalize [value] (before ++ .replace table :: after) = normalize [replacement] after := by
  have applied : (Step.replace table).apply [found] = [replacement] := by
    simp [Step.apply, Step.applyTo, entry]
  rw [normalize_append, normalize_cons, dropBlank_normalize, reached, applied]

/-- **Every value is normalized on its own, step after step.** A run over joined lists joins the runs
over both, and a run of joined steps is the second run after the first. So a run leaves at most one
of each value, in the order of the values and whatever stands beside it, and nothing that is null or
white space. A table looks up what the steps before it leave and nothing else; a value for which it
puts in null or white space is gone. -/
theorem normalize_pointwise (values others : List Json) (steps more : List Step) :
    normalize (values ++ others) steps = normalize values steps ++ normalize others steps ∧
    normalize values (steps ++ more) = normalize (normalize values steps) more ∧
    normalize values steps = values.flatMap (fun value => normalize [value] steps) ∧
    (∀ value, (normalize [value] steps).length ≤ 1) ∧
    (normalize values steps).length ≤ values.length ∧
    (∀ value ∈ normalize values steps, value ≠ .null ∧ Text.isBlank value.stringForm = false) ∧
    ∀ table value found replacement, normalize [value] steps = [found] →
      Entries.get? table found.stringForm = some replacement →
        normalize [value] (steps ++ .replace table :: more) = normalize [replacement] more ∧
        (Text.isBlank replacement.stringForm = true →
          normalize [value] (steps ++ .replace table :: more) = []) := by
  refine ⟨normalize_append_values values others steps, normalize_append values steps more,
    normalize_eq_flatMap values steps, fun value => length_normalize_le [value] steps,
    length_normalize_le values steps, fun value => not_blank_of_mem_normalize, ?_⟩
  intro table value found replacement reached entry
  have replaced := normalize_replace reached entry more
  refine ⟨replaced, fun blank => ?_⟩
  rw [replaced, normalize_of_isBlank ((isBlank_eq replacement).trans blank)]

/-- A table whose replacements are keys of it, but for the last one, which is white space. -/
def chainedTable : Entries Json :=
  [("a", .str "b"), ("b", .str "c"), ("c", .str " ")]

theorem normalize_pointwise_chained_table :
    (normalize [.str " A"] [.trim, .lowercase] = [.str "a"] ∧
      Entries.get? chainedTable "a" = some (.str "b") ∧
      normalize [.str " A"] ([.trim, .lowercase] ++ .replace chainedTable :: [.trim]) =
        normalize [.str "b"] [.trim]) ∧
    (normalize [.str "C"] [.trim, .lowercase] = [.str "c"] ∧
      Entries.get? chainedTable "c" = some (.str " ") ∧ Text.isBlank " " = true ∧
      normalize [.str "C"] ([.trim, .lowercase] ++ .replace chainedTable :: [.trim]) = []) ∧
    (Json.str "a" ∈ normalize [.str " A", .null] [.trim, .lowercase] ∧ Json.str "a" ≠ .null ∧
      Text.isBlank "a" = false) := by
  obtain ⟨-, -, -, -, -, carries, replaced⟩ :=
    normalize_pointwise [.str " A", .null] [] [.trim, .lowercase] [.trim]
  have first : normalize [.str " A"] [.trim, .lowercase] = [.str "a"] := by rfl
  have second : normalize [.str "C"] [.trim, .lowercase] = [.str "c"] := by rfl
  have blank : Text.isBlank " " = true := by decide
  have left : Json.str "a" ∈ normalize [.str " A", .null] [.trim, .lowercase] := .head _
  exact ⟨⟨first, rfl, (replaced chainedTable (.str " A") _ _ first rfl).1⟩,
    ⟨second, rfl, blank, (replaced chainedTable (.str "C") _ _ second rfl).2 blank⟩,
    left, carries _ left⟩

end PrivacyMapping.Normalization
