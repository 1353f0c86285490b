import Mathlib.Data.List.Basic
import Storyboard.Proofs.Timeline.Dependency
import Storyboard.Validation.Template

/-!
# What a report says

Where the findings about a template come from, by their categories, and what it means that a check
finds nothing.
-/

namespace Storyboard

variable {τ : Type}

namespace Findings

@[simp] theorem errors_append (a b : Findings τ) : (a ++ b).errors = a.errors ++ b.errors := rfl

@[simp] theorem warnings_append (a b : Findings τ) :
    (a ++ b).warnings = a.warnings ++ b.warnings := rfl

@[simp] theorem errors_join (checks : List (Findings τ)) :
    (join checks).errors = checks.flatMap (·.errors) := by
  induction checks with
  | nil => rfl
  | cons check rest ih => rw [List.flatMap_cons, ← ih]; rfl

@[simp] theorem warnings_join (checks : List (Findings τ)) :
    (join checks).warnings = checks.flatMap (·.warnings) := by
  induction checks with
  | nil => rfl
  | cons check rest ih => rw [List.flatMap_cons, ← ih]; rfl

theorem isValid_iff {f : Findings τ} : f.isValid = true ↔ f.errors = [] := List.isEmpty_iff

end Findings

namespace Validation

/-! ## Where a finding comes from -/

theorem code_duplicates {t : Template τ} {f : Finding τ} (member : f ∈ duplicates t) :
    f.cause.code = .duplicateId := by
  simp only [duplicates, duplicateFindings, List.mem_append, List.mem_map] at member
  rcases member with ((⟨_, _, rfl⟩ | ⟨_, _, rfl⟩) | ⟨_, _, rfl⟩) | ⟨_, _, rfl⟩ <;> rfl

/-- The duplicate ids of elements are reported as such. -/
theorem mem_duplicates_element {t : Template τ} {id : String} :
    (∃ f ∈ duplicates t, f.cause = .duplicateId .element id) ↔
      id ∈ repeats [] (t.elements.map (·.id)) := by
  simp only [duplicates, duplicateFindings, List.mem_append, List.mem_map]
  constructor
  · rintro ⟨f, ((⟨_, _, rfl⟩ | ⟨_, member, rfl⟩) | ⟨_, _, rfl⟩) | ⟨_, _, rfl⟩, same⟩
    · cases same
    · cases same
      exact member
    · cases same
    · cases same
  · intro member
    exact ⟨_, .inl (.inl (.inr ⟨id, member, rfl⟩)), rfl⟩

theorem code_unknownPlaceholders {t : Template τ} {f : Finding τ}
    (member : f ∈ unknownPlaceholders t) : f.cause.code = .missingPlaceholder := by
  obtain ⟨e, _, found⟩ := List.mem_filterMap.1 member
  split at found
  · cases found
  · split at found
    · cases found
    · cases found
      rfl

theorem code_unknownOperators {t : Template τ} {f : Finding τ} (member : f ∈ unknownOperators t) :
    f.cause.code = .unknownOperator := by
  simp only [unknownOperators, List.mem_flatMap, List.mem_map] at member
  obtain ⟨_, _, _, _, rfl⟩ := member
  rfl

theorem code_unknownAnchors {t : Template τ} {f : Finding τ} (member : f ∈ unknownAnchors t) :
    f.cause.code = .orphanedReference := by
  simp only [unknownAnchors, List.mem_filterMap, Option.map_eq_some_iff] at member
  obtain ⟨_, _, _, _, rfl⟩ := member
  rfl

/-- A circle that is found is something that elements wait for in vain. -/
theorem mem_waiting {t : Template τ} {chain : List String} {back : String}
    (found : (chain, back) ∈ circles t) :
    { cause := .circle chain back, elementId := some back } ∈ waiting t :=
  List.mem_append_right _ (List.mem_map_of_mem found)

variable [Measure τ]

theorem code_checkPlaceholder {t : Template τ} {p : Placeholder τ} {f : Finding τ}
    (member : f ∈ (checkPlaceholder t p).errors) :
    f.cause.code = .invalidConstraints ∨ f.cause.code = .invalidDefault := by
  simp only [checkPlaceholder, List.mem_append, List.mem_map, Option.mem_toList,
    Option.map_eq_some_iff] at member
  rcases member with ⟨_, _, rfl⟩ | ⟨_, _, rfl⟩
  · exact .inl rfl
  · exact .inr rfl

theorem code_durationFault {t : Template τ} {e : Template.Element τ} {cause : Cause τ}
    (fault : durationFault? t e = some cause) :
    cause.code = .invalidDuration ∨ cause.code = .missingPlaceholder := by
  have negative : ∀ {limit : Option τ}, (limit.bind fun limit =>
      if Measure.lt limit Measure.zero = true then some (Cause.negativeLimit limit) else none) =
        some cause → cause.code = .invalidDuration := by
    intro limit found
    obtain ⟨_, _, found⟩ := Option.bind_eq_some_iff.1 found
    split at found <;> cases found
    rfl
  unfold durationFault? at fault
  split at fault
  · split at fault <;> cases fault
    exact .inl rfl
  · exact .inl (negative fault)
  · exact .inl (negative fault)
  · cases fault
  · split at fault
    · cases fault
      exact .inr rfl
    · split at fault <;> cases fault
      exact .inl rfl

theorem code_checkElement {t : Template τ} {e : Template.Element τ} {f : Finding τ}
    (member : f ∈ (checkElement t e).errors) :
    f.cause.code = .invalidDuration ∨ f.cause.code = .missingPlaceholder := by
  simp only [checkElement, Option.mem_toList, Option.map_eq_some_iff] at member
  obtain ⟨cause, fault, rfl⟩ := member
  exact code_durationFault fault

end Validation

/-! ## The whole report -/

variable [Measure τ]

theorem Template.errors_validate (t : Template τ) :
    t.validate.errors =
      (if t.version == currentVersion then [] else [{ cause := .unsupportedVersion t.version }])
        ++ Validation.duplicates t
        ++ t.placeholders.flatMap (fun p => (Validation.checkPlaceholder t p).errors)
        ++ Validation.unknownPlaceholders t
        ++ t.elements.flatMap (fun e => (Validation.checkElement t e).errors)
        ++ Validation.waiting t
        ++ Validation.unknownOperators t := by
  simp only [validate, Findings.errors_append, Findings.errors_join, List.flatMap_map]
  split <;> split <;> simp [Findings.error, Findings.warning]

theorem Template.warnings_validate (t : Template τ) :
    t.validate.warnings =
      (if t.tracks.isEmpty then [{ cause := .noTracks }] else [])
        ++ t.placeholders.flatMap (fun p => (Validation.checkPlaceholder t p).warnings)
        ++ t.elements.flatMap (fun e => (Validation.checkElement t e).warnings) := by
  simp only [validate, Findings.warnings_append, Findings.warnings_join, List.flatMap_map]
  split <;> split <;> simp [Findings.error, Findings.warning]

/-- Nothing about ids, references or circles is a mere warning. -/
theorem Template.code_warnings {t : Template τ} {f : Finding τ} (member : f ∈ t.validate.warnings) :
    f.cause.code = .emptyTemplate ∨ f.cause.code = .unusedPlaceholder ∨
      f.cause.code = .unknownCaptionStyle ∨ f.cause.code = .positionOutOfBounds := by
  simp only [warnings_validate, List.mem_append, List.mem_flatMap] at member
  rcases member with (empty | ⟨p, _, unused⟩) | ⟨e, _, odd⟩
  · split at empty
    · obtain rfl := List.mem_singleton.1 empty
      exact .inl rfl
    · cases empty
  · simp only [Validation.checkPlaceholder] at unused
    split at unused
    · cases unused
    · obtain rfl := List.mem_singleton.1 unused
      exact .inr (.inl rfl)
  · simp only [Validation.checkElement, List.mem_append, Option.mem_toList,
      Option.map_eq_some_iff] at odd
    rcases odd with ⟨_, _, rfl⟩ | ⟨_, _, rfl⟩
    · exact .inr (.inr (.inl rfl))
    · exact .inr (.inr (.inr rfl))

/-- What these two checks find is reported. -/
theorem Template.mem_report {t : Template τ} {f : Finding τ}
    (found : f ∈ Validation.duplicates t ∨ f ∈ Validation.waiting t) :
    f ∈ t.validate.errors ++ t.validate.warnings := by
  rw [errors_validate]
  rcases found with twice | waits
  · simp only [List.mem_append, twice, or_true, true_or]
  · simp only [List.mem_append, waits, or_true, true_or]

/-- Only two checks report on ids, references and circles. -/
theorem Template.reported_cases {t : Template τ} {f : Finding τ}
    (member : f ∈ t.validate.errors ++ t.validate.warnings) :
    f ∈ Validation.duplicates t ∨ f ∈ Validation.waiting t ∨
      (f.cause.code ≠ .duplicateId ∧ f.cause.code ≠ .orphanedReference ∧
        f.cause.code ≠ .circularReference) := by
  rcases List.mem_append.1 member with error | warning
  · simp only [errors_validate, List.mem_append, List.mem_flatMap] at error
    rcases error with (((((version | twice) | ⟨p, _, fault⟩) | unknown) | ⟨e, _, fault⟩) | waits) |
      operator
    · split at version
      · cases version
      · obtain rfl := List.mem_singleton.1 version
        exact .inr (.inr ⟨nofun, nofun, nofun⟩)
    · exact .inl twice
    · rcases Validation.code_checkPlaceholder fault with code | code <;> simp [code]
    · simp [Validation.code_unknownPlaceholders unknown]
    · rcases Validation.code_checkElement fault with code | code <;> simp [code]
    · exact .inr (.inl waits)
    · simp [Validation.code_unknownOperators operator]
  · rcases code_warnings warning with code | code | code | code <;> simp [code]

end Storyboard
