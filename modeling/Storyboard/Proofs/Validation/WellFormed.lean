import Storyboard.Proofs.Interpretation.Filling
import Storyboard.Proofs.Validation.Agreement

/-!
# Well-formed templates

What a template has to keep so that validation has nothing to say about it, except about durations:
distinct ids, references that lead somewhere, no circles, placeholders that can be met and defaults
of their kinds.
-/

namespace Storyboard

variable {τ : Type} [Measure τ] {t : Template τ}

/-- A template whose parts fit together, durations apart. -/
structure Template.WellFormed (t : Template τ) : Prop where
  version : t.version = currentVersion
  tracks : (t.tracks.map (·.id)).Nodup
  elements : t.DistinctIds
  placeholders : t.DistinctPlaceholders
  rules : (t.rules.map (·.id)).Nodup
  operators : ∀ r ∈ t.rules, r.unknownOperators = []
  /-- An element is placed relative to one that stands before it, if to any. -/
  anchored : ∀ earlier e later, t.elements = earlier ++ e :: later →
    ∀ id, e.timing.anchorId? = some id → id ∈ earlier.map (·.id)
  acyclic : t.Acyclic
  /-- The placeholders that contents and durations name are there. -/
  references : ∀ id ∈ Validation.referenced t, (t.placeholder? id).isSome = true
  constraints : ∀ p ∈ t.placeholders, Validation.constraintFaults p.constraints = []
  defaults : ∀ p ∈ t.placeholders, ∀ input, p.default = some input → input.kind = p.kind

namespace Validation

omit [Measure τ] in
theorem duplicateFindings_eq_nil {ids : List String} (distinct : ids.Nodup) (owner : IdOwner) :
    duplicateFindings owner ids = ([] : List (Finding τ)) := by
  have none : repeats [] ids = [] := by
    rw [← List.head?_eq_none_iff, ← repeated?_eq, Timeline.repeated?_none]
    exact ⟨distinct, fun _ _ => List.not_mem_nil⟩
  rw [duplicateFindings, none, List.map_nil]

theorem checkPlaceholder_errors_eq_nil {p : Placeholder τ}
    (free : constraintFaults p.constraints = [])
    (default : ∀ input, p.default = some input → input.kind = p.kind) :
    (checkPlaceholder t p).errors = [] := by
  have fitting : p.default.filter (fun input => input.kind != p.kind) = none := by
    rw [Option.filter_eq_none_iff]
    intro input value
    simp [default input value]
  simp [checkPlaceholder, free, fitting]

/-- A duration refers to a placeholder that is not there only by its name. -/
theorem lost_of_durationFault {e : Template.Element τ} {cause : Cause τ}
    (fault : durationFault? t e = some cause) (lost : cause.code = .missingPlaceholder) :
    ∃ id hint, e.duration = .matchAudio (some id) hint ∧ t.placeholder? id = none := by
  have limit : ∀ {limit : Option τ}, (limit.bind fun limit =>
      if Measure.lt limit Measure.zero = true then some (Cause.negativeLimit limit) else none) ≠
        some cause := by
    intro limit found
    obtain ⟨_, _, found⟩ := Option.bind_eq_some_iff.1 found
    split at found <;> cases found
    cases lost
  unfold durationFault? at fault
  split at fault
  · split at fault <;> cases fault
    cases lost
  · exact absurd fault limit
  · exact absurd fault limit
  · cases fault
  · next id hint named =>
    split at fault
    · next none => exact ⟨id, hint, named, none⟩
    · split at fault <;> cases fault
      cases lost

end Validation

namespace Template.WellFormed

variable (wellFormed : t.WellFormed)
include wellFormed

theorem anchors : t.AnchorsExist := by
  intro e member id anchor
  obtain ⟨earlier, later, split⟩ := List.append_of_mem member
  obtain ⟨a, before, same⟩ :=
    List.mem_map.1 (wellFormed.anchored earlier e later split id anchor)
  exact ⟨a, split ▸ List.mem_append_left _ before, same⟩

theorem known : Validation.unknownPlaceholders t = [] := by
  rw [unknownPlaceholders_eq_nil_iff]
  intro e member id shown
  refine wellFormed.references id (List.mem_flatMap.2 ⟨e, member, List.mem_append_left _ ?_⟩)
  simp [shown]

/-- Nothing is reported but what is wrong with the durations of elements. -/
theorem errors_validate :
    t.validate.errors = t.elements.flatMap fun e => (Validation.checkElement t e).errors := by
  have duplicates : Validation.duplicates t = [] := by
    simp only [Validation.duplicates, List.append_eq_nil_iff]
    exact ⟨⟨⟨Validation.duplicateFindings_eq_nil wellFormed.tracks _,
      Validation.duplicateFindings_eq_nil wellFormed.elements _⟩,
      Validation.duplicateFindings_eq_nil wellFormed.placeholders _⟩,
      Validation.duplicateFindings_eq_nil wellFormed.rules _⟩
  have placeholders : t.placeholders.flatMap (fun p => (Validation.checkPlaceholder t p).errors) =
      [] := List.flatMap_eq_nil_iff.2 fun p member =>
    Validation.checkPlaceholder_errors_eq_nil (wellFormed.constraints p member)
      (wellFormed.defaults p member)
  have waiting : Validation.waiting t = [] := by
    rw [Validation.waiting, Validation.unknownAnchors_eq_nil_iff.2 wellFormed.anchors,
      Validation.circles_eq_nil_iff.2 wellFormed.acyclic]
    rfl
  have operators : Validation.unknownOperators t = [] :=
    List.flatMap_eq_nil_iff.2 fun r member => by rw [wellFormed.operators r member, List.map_nil]
  rw [Template.errors_validate, duplicates, placeholders, wellFormed.known, waiting, operators,
    wellFormed.version, if_pos (beq_self_eq_true _)]
  simp only [List.nil_append, List.append_nil]

/-- Durations name no placeholder that is not there, so all that can be wrong with one is its
value. -/
theorem code_errors : ∀ f ∈ t.validate.errors, f.cause.code = .invalidDuration := by
  intro f member
  rw [wellFormed.errors_validate] at member
  obtain ⟨e, inside, reported⟩ := List.mem_flatMap.1 member
  rcases Validation.code_checkElement reported with bad | lost
  · exact bad
  · simp only [Validation.checkElement, Option.mem_toList, Option.map_eq_some_iff] at reported
    obtain ⟨cause, fault, rfl⟩ := reported
    obtain ⟨id, hint, named, none⟩ := Validation.lost_of_durationFault fault lost
    have there := wellFormed.references id (List.mem_flatMap.2 ⟨e, inside, by simp [named]⟩)
    simp [none] at there

end Template.WellFormed

end Storyboard
