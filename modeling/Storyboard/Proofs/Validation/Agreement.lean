import Storyboard.Proofs.Timeline.Solvable
import Storyboard.Proofs.Validation.Report
import Storyboard.Proofs.Validation.Walk

/-!
# Validation and timelines agree

The links that validation walks along are the dependencies between the elements of a template, so
that it reports a circle exactly when there is one. It reports what stands in the way of a timeline,
and nothing of the kind where a timeline can be worked out.
-/

namespace Storyboard.Validation

open Template (pairUp)

variable {τ : Type} {t : Template τ}

/-! ## Links are dependencies -/

theorem trackLinks_eq (known : List String) (es : List (Template.Element τ)) :
    trackLinks known es = (pairUp es).map fun (e, next) => (e.id, waitsFor known e next) := by
  induction es with
  | nil => rfl
  | cons e rest ih => rw [trackLinks, ih]; rfl

theorem links_eq (t : Template τ) :
    links t = t.successions.map fun (e, next) =>
      (e.id, waitsFor (t.elements.map (·.id)) e next) := by
  simp only [links, trackLinks_eq, Template.successions, List.map_flatMap]

theorem map_fst_links (t : Template τ) : (links t).map (·.1) = t.elements.map (·.id) := by
  rw [links_eq, List.map_map, ← Template.map_fst_successions, List.map_map]
  rfl

theorem mem_waitsFor {known : List String} {e : Template.Element τ}
    {next : Option (Template.Element τ)} {link : String} :
    link ∈ waitsFor known e next ↔
      (e.timing.anchorId? = some link ∧ link ∈ known) ∨
        e.duration.isFillGap = true ∧ ∃ n, next = some n ∧ n.id = link := by
  simp only [waitsFor, List.mem_append, Option.mem_toList, Option.filter_eq_some_iff,
    List.contains_iff_mem]
  split <;> simp_all

/-- An element waits for those it depends on, as far as they exist. -/
theorem waits_links {id link : String} :
    Waits (links t) id link ↔ t.DependsOn id link ∧ link ∈ t.elements.map (·.id) := by
  rw [Waits, mem_linksOf, links_eq]
  constructor
  · rintro ⟨entry, member, rfl, waits⟩
    obtain ⟨⟨e, next⟩, listed, rfl⟩ := List.mem_map.1 member
    have stands := Template.mem_successions.1 listed
    rcases mem_waitsFor.1 waits with ⟨anchor, known⟩ | ⟨gap, n, rfl, rfl⟩
    · exact ⟨.anchor stands anchor, known⟩
    · exact ⟨.gap stands gap, List.mem_map_of_mem stands.next_mem⟩
  · rintro ⟨depends, known⟩
    cases depends with
    | @anchor e next _ stands anchor =>
      exact ⟨_, List.mem_map_of_mem (Template.mem_successions.2 stands), rfl,
        mem_waitsFor.2 (.inl ⟨anchor, known⟩)⟩
    | @gap e n stands gap =>
      exact ⟨_, List.mem_map_of_mem (Template.mem_successions.2 stands), rfl,
        mem_waitsFor.2 (.inr ⟨gap, n, rfl, rfl⟩)⟩

theorem complete_links (t : Template τ) : Complete (links t) := by
  intro entry member link inside
  rw [map_fst_links]
  exact (waits_links.1 (mem_linksOf.2 ⟨entry, member, rfl, inside⟩)).2

/-- Along a circle all elements exist. -/
theorem transGen_links {id needed : String} (path : Relation.TransGen t.DependsOn id needed)
    (known : needed ∈ t.elements.map (·.id)) : Relation.TransGen (Waits (links t)) id needed := by
  induction path with
  | single depends => exact .single (waits_links.2 ⟨depends, known⟩)
  | tail _ depends ih => exact (ih depends.source).tail (waits_links.2 ⟨depends, known⟩)

/-- **Circles are reported** exactly when an element depends on itself. -/
theorem circles_eq_nil_iff : circles t = [] ↔ t.Acyclic := by
  have walks : circles t = (Walk.whole (links t)).circles := rfl
  rw [walks, Walk.circles_whole_iff (complete_links t)]
  refine forall_congr' fun id => not_congr ⟨fun circle => ?_, fun circle => ?_⟩
  · exact Relation.TransGen.mono (fun _ _ waits => (waits_links.1 waits).1) _ _ circle
  · obtain ⟨_, depends, _⟩ := Relation.TransGen.head'_iff.1 circle
    exact transGen_links circle depends.source

instance (t : Template τ) : Decidable t.Acyclic :=
  decidable_of_iff (circles t = []) circles_eq_nil_iff

/-! ## Anchors and ids -/

theorem unknownAnchors_eq_nil_iff : unknownAnchors t = [] ↔ t.AnchorsExist := by
  simp only [unknownAnchors, List.filterMap_eq_nil_iff, Option.map_eq_none_iff,
    Option.filter_eq_none_iff, Template.AnchorsExist]
  refine forall₂_congr fun e _ => forall₂_congr fun id _ => ?_
  simp

/-- The work on a timeline stops at the first of the ids that validation reports. -/
theorem repeated?_eq (seen ids : List String) :
    Timeline.repeated? seen ids = (repeats seen ids).head? := by
  fun_induction repeats seen ids <;> simp_all [Timeline.repeated?]

theorem repeats_eq_nil_iff : repeats [] (t.elements.map (·.id)) = [] ↔ t.DistinctIds := by
  rw [← List.head?_eq_none_iff, ← repeated?_eq, ← Timeline.map_id_nodes, Timeline.distinctIds_iff]

/-! ## What is reported -/

variable [Measure τ]

/-- A report is silent about ids of elements, references and circles exactly when the template has
distinct ids, anchors that exist, and no circle. -/
theorem silent_iff :
    (∀ f ∈ t.validate.errors ++ t.validate.warnings,
      (∀ id, f.cause ≠ .duplicateId .element id) ∧
        f.cause.code ≠ .orphanedReference ∧ f.cause.code ≠ .circularReference) ↔
      t.DistinctIds ∧ t.AnchorsExist ∧ t.Acyclic := by
  rw [← repeats_eq_nil_iff, ← unknownAnchors_eq_nil_iff, ← circles_eq_nil_iff]
  constructor
  · intro silent
    refine ⟨?_, ?_, ?_⟩
    · refine List.eq_nil_iff_forall_not_mem.2 fun id repeated => ?_
      obtain ⟨f, member, same⟩ := mem_duplicates_element.2 repeated
      exact (silent f (Template.mem_report (.inl member))).1 id same
    · refine List.eq_nil_iff_forall_not_mem.2 fun f member => ?_
      exact (silent f (Template.mem_report (.inr (List.mem_append_left _ member)))).2.1
        (code_unknownAnchors member)
    · refine List.eq_nil_iff_forall_not_mem.2 fun circle member => ?_
      exact (silent _ (Template.mem_report (.inr (mem_waiting member)))).2.2 rfl
  · rintro ⟨repeated, lost, circles⟩ f member
    rcases Template.reported_cases member with twice | waits | ⟨id, reference, circle⟩
    · have code := code_duplicates twice
      refine ⟨fun id same => ?_, by simp [code], by simp [code]⟩
      have back := mem_duplicates_element.1 ⟨f, twice, same⟩
      simp [repeated] at back
    · simp [waiting, lost, circles] at waits
    · exact ⟨fun _ same => id (by rw [same]; rfl), reference, circle⟩

/-- **Validation and timelines agree**: with durations that are all known, a template has a timeline
exactly when the report does not speak of elements with one id, of references that lead nowhere, or
of circles. -/
theorem resolve_iff_silent (t : Template τ) (timelineDuration : Option τ)
    (durationOf : Template.Element τ → τ) :
    (∃ timeline, Timeline.resolve t timelineDuration (fun e => .ok (durationOf e)) = .ok timeline) ↔
      ∀ f ∈ t.validate.errors ++ t.validate.warnings,
        (∀ id, f.cause ≠ .duplicateId .element id) ∧
          f.cause.code ≠ .orphanedReference ∧ f.cause.code ≠ .circularReference := by
  rw [silent_iff]
  constructor
  · rintro ⟨timeline, done⟩
    obtain ⟨distinct, anchors, _⟩ := Timeline.run_of_resolve done
    exact ⟨distinct, anchors, Timeline.acyclic_of_resolve done⟩
  · rintro ⟨distinct, anchors, acyclic⟩
    rcases Timeline.resolve_acyclic timelineDuration (fun e => .ok (durationOf e)) distinct anchors
      acyclic with done | ⟨e, _, _, failure, failed, _⟩
    · exact done
    · cases failed

end Storyboard.Validation
