import Storyboard.Proofs.Batch.Bookkeeping
import Storyboard.Proofs.Double.Order
import Storyboard.Proofs.Interpretation.Settlement
import Storyboard.Proofs.Keyed
import Storyboard.Template.Summary

/-!
# What a summary promises

A summary gives the length of the timeline by the recorded durations. Filling a row without
collaborators takes the same durations and leaves no element out, so the elements of the project
end when those of the timeline do, and without rules the project lasts as long as the summary says,
whatever is in the row.
-/

namespace Storyboard

/-! ## Counted placeholders -/

namespace Keyed

/-- Putting in a number changes the sum by what it adds to the number it replaces. -/
theorem sum_insert (key : String) (value : Nat) {counts : Keyed Nat} (ordered : counts.Ordered) :
    ((insert key value counts).map Prod.snd).sum + (counts.get? key).getD 0 =
      (counts.map Prod.snd).sum + value := by
  induction counts with
  | nil => simp [insert, get?]
  | cons entry rest ih =>
    obtain ⟨k, v⟩ := entry
    obtain ⟨first, later⟩ := List.pairwise_cons.1 ordered
    rw [get?_cons, insert]
    by_cases same : key = k
    · simp only [if_pos same, List.map_cons, List.sum_cons, Option.getD_some]
      omega
    · rw [if_neg same, if_neg same]
      split
      · next less =>
        -- All keys from here on are above the new one.
        have absent : get? rest key = none := get?_eq_none_iff.2 fun member => by
          obtain ⟨entry, inside, rfl⟩ := List.mem_map.1 member
          exact less.asymm (first entry inside)
        simp only [absent, List.map_cons, List.sum_cons, Option.getD_none]
        omega
      · have := ih later
        simp only [List.map_cons, List.sum_cons]
        omega

end Keyed

theorem InputKind.name_injective : Function.Injective InputKind.name := by
  intro a b
  cases a <;> cases b <;> decide

/-- Some placeholders counted by their kinds. -/
structure Counted {τ : Type} (placeholders : List (Placeholder τ)) (counts : Keyed Nat) : Prop where
  ordered : counts.Ordered
  each : ∀ kind : InputKind, (counts.get? kind.name).getD 0 = placeholders.countP (·.kind == kind)
  total : (counts.map Prod.snd).sum = placeholders.length

/-- One more placeholder is counted. -/
theorem Counted.insert {τ : Type} {placeholders : List (Placeholder τ)} {counts : Keyed Nat}
    (counted : Counted placeholders counts) (p : Placeholder τ) :
    Counted (placeholders ++ [p])
      (Keyed.insert p.kind.name ((counts.get? p.kind.name).getD 0 + 1) counts) := by
  refine ⟨Keyed.ordered_insert _ _ counted.ordered, fun kind => ?_, ?_⟩
  · rw [Keyed.get?_insert, List.countP_append, ← counted.each kind]
    by_cases same : kind = p.kind
    · simp [same]
    · rw [if_neg (InputKind.name_injective.ne same)]
      simp [Ne.symm same]
  · have sum := Keyed.sum_insert p.kind.name ((counts.get? p.kind.name).getD 0 + 1) counted.ordered
    rw [List.length_append, List.length_singleton, ← counted.total]
    omega

theorem counted_countKinds {τ : Type} (placeholders : List (Placeholder τ)) :
    Counted placeholders (countKinds placeholders) := by
  suffices run : ∀ {before : List (Placeholder τ)} {counts : Keyed Nat}, Counted before counts →
      Counted (before ++ placeholders) (placeholders.foldl (fun counts p =>
        Keyed.insert p.kind.name ((counts.get? p.kind.name).getD 0 + 1) counts) counts) by
    exact @run [] [] ⟨.nil, fun _ => rfl, rfl⟩
  induction placeholders with
  | nil =>
    intro before counts counted
    rwa [List.append_nil]
  | cons p rest ih =>
    intro before counts counted
    have later := ih (counted.insert p)
    rwa [List.append_assoc] at later

/-! ## The ends of elements -/

/-- The latest of some values does not depend on how they are listed. -/
theorem Measure.latest_perm {τ : Type} [Measure τ] [OrderedMeasure τ] {as bs : List τ}
    (perm : as.Perm bs) : latest as = latest bs := by
  have same : {a | a ∈ as} = {a | a ∈ bs} := Set.ext fun _ => perm.mem_iff
  exact (isLatest_latest as).unique (same ▸ isLatest_latest bs)

namespace Template

variable {τ : Type} [Measure τ] {t : Template τ} {timeline : Timeline τ} {canvas : Canvas}
  {name : String} {now : Instant} {used defaultsApplied : List String}
  {filled : List (Track τ × List (Filled τ))} {ids left : IdSupply} {p : Project τ}

/-- The estimate is the end of the timeline by recorded durations, where there is one. -/
theorem estimatedDuration_summary (timed : Timeline.hinted t none = .ok timeline) :
    t.summary.estimatedDuration = timeline.finish := by
  simp only [summary, timed]

/-- Where no element is left out, the elements of a project end when those of the template do. -/
theorem ends_build
    {content : TrackKind → Element τ → Except (Failure τ) (Option (Project.Content τ))}
    (whole : ∀ kind e made, content kind e = .ok made → made.isSome = true)
    {spans : String → Span τ} (timed : ∀ id span, timeline.span? id = some span → span = spans id)
    (done : fillTracks timeline content t.tracks = .ok filled)
    (made : t.build canvas name now used defaultsApplied filled ids = (p, left)) :
    p.elements.map (·.finish) = t.elements.map fun e => (spans e.id).finish := by
  have kept := fillTracks_kept whole done
  rw [Project.elements, elements, List.map_flatMap, List.map_flatMap]
  refine (flatMap_congr_forall₂ (forall₂_trans ?_ kept (tracks_build made))).symm
  rintro track entry result ⟨rfl, images⟩ ⟨-, built⟩
  rw [List.filter_true] at images
  refine forall₂_iff_map.1 (forall₂_trans ?_ images built)
  rintro e f x image same
  rw [← timed e.id f.span image.span, same]
  rfl

end Template

namespace Batch

/-! ## Rows filled without collaborators -/

/-- What is filled without collaborators lasts as long as the summary says. -/
theorem duration_quickProject {τ : Type} [Measure τ] {t : Template τ} {inputs : Inputs τ}
    {name : String} {now : Instant} {ids left : IdSupply} {p : Project τ}
    (done : quickProject t inputs name now ids = .ok (p, left)) :
    Project.lastFinish p.tracks = t.summary.estimatedDuration := by
  obtain ⟨timeline, filled, timed, contents, built⟩ := quickProject_ok done
  obtain ⟨run, -, -, listed⟩ := Timeline.settled_run_of_resolve timed
  have known : ∀ id span, timeline.span? id = some span →
      span = Timeline.spanAt (Timeline.nodes t) run id := by
    intro id span found
    rw [listed, Timeline.span?_map] at found
    split at found
    · exact (Option.some.inj found).symm
    · cases found
  have whole : ∀ kind e made, (quickContent t inputs kind e).map some = .ok made →
      made.isSome = true := by
    intro kind e made shown
    obtain ⟨content, -, rfl⟩ := map_ok_iff.1 shown
    rfl
  have ends := Template.ends_build whole known contents built
  rw [Template.estimatedDuration_summary timed, Timeline.finish, listed, List.map_map]
  exact congrArg Measure.latest ends

/-- Without rules nothing is changed afterwards. -/
theorem duration_quick {ω : Type} {t : Template Float} (plain : t.rules = []) {source : DataSource}
    {row : Row} {name : String} {now : Instant} {ids left : IdSupply} {w : ω} {p : Project Float}
    (made : (makeRow t source (quickMaker t now) row name ids w).1 = .ok (p, left)) :
    p.duration = t.summary.estimatedDuration := by
  obtain ⟨inputs, ⟨before, drawn⟩, report, -, quick, settled⟩ := makeRow_quick_ok made
  obtain ⟨carried, -⟩ := Template.settle_ok_iff.1 settled
  rw [plain] at carried
  cases carried
  exact (duration_quickProject quick :)

/-- **The estimate of a summary is kept**: without rules every project that is made of a row without
collaborators lasts as long as the summary of the template says, whatever is in the row and however
the spans of the timeline are listed. The summary counts every placeholder under its kind. -/
theorem estimate_kept (t : Template Float) :
    (t.rules = [] → ∀ (ω : Type) (job : Job) (cancelled : ω → Bool × ω) (now : Instant)
        (ids : IdSupply) (w : ω), ∀ o ∈ (runQuick job t cancelled now ids w).1, ∀ p,
      o.result = .ok p → p.duration = t.summary.estimatedDuration) ∧
    (∀ timeline, Timeline.hinted t none = .ok timeline → ∀ listed : Timeline Float,
      listed.Perm timeline → listed.finish = t.summary.estimatedDuration) ∧
    (∀ kind : InputKind, (t.summary.placeholdersByKind.get? kind.name).getD 0 =
      t.placeholders.countP (·.kind == kind)) ∧
    (t.summary.placeholdersByKind.map Prod.snd).sum = t.summary.placeholderCount := by
  obtain ⟨-, each, total⟩ := counted_countKinds t.placeholders
  refine ⟨fun plain ω job cancelled now ids w o member p done => ?_,
    fun timeline timed listed perm => ?_, each, total⟩
  · obtain ⟨i, here⟩ := List.mem_iff_getElem?.1 member
    obtain ⟨row, -, -, -, drawn, state, made⟩ := of_getElem?_process here
    obtain ⟨⟨q, left⟩, made, rfl⟩ := map_ok_iff.1 (made.symm.trans done)
    exact duration_quick plain made
  · rw [Template.estimatedDuration_summary timed]
    exact Measure.latest_perm (perm.map _)

/-- A greeting that no rule changes. -/
def unruled : Template Float := { greeting with rules := [] }

/-- A row that has a name and one that follows a row without one. -/
theorem made_unruled :
    ∀ i ∈ [0, 2], ∃ o ∈ (runQuick repeated unruled (fun w => (false, w)) ⟨0, 0⟩ ⟨Nat.repr, 0⟩ ()).1,
      o.rowIndex = i ∧ ∃ p, o.result = .ok p := by
  have made : [0, 2].all (fun i =>
      (runQuick repeated unruled (fun w => (false, w)) ⟨0, 0⟩ ⟨Nat.repr, 0⟩ ()).1.any fun o =>
        o.rowIndex == i && o.result.isOk) = true := by decide +kernel
  intro i member
  obtain ⟨o, here, made⟩ := List.any_eq_true.1 (List.all_eq_true.1 made i member)
  obtain ⟨index, made⟩ := (Bool.and_eq_true _ _).mp made
  exact ⟨o, here, beq_iff_eq.1 index, isOk_iff.1 made⟩

theorem estimate_unruled :
    unruled.rules = [] ∧ unruled.summary.estimatedDuration = 3.5 ∧
      (∀ i ∈ [0, 2], ∃ o ∈ (runQuick repeated unruled (fun w => (false, w)) ⟨0, 0⟩
        ⟨Nat.repr, 0⟩ ()).1, o.rowIndex = i ∧
          ∃ p, o.result = .ok p ∧ p.duration = unruled.summary.estimatedDuration) ∧
      (∃ timeline : Timeline Float, Timeline.hinted unruled none = .ok timeline ∧
        timeline.length = 2 ∧ Timeline.finish timeline.reverse = unruled.summary.estimatedDuration) ∧
      (unruled.summary.placeholdersByKind.map Prod.snd).sum = 1 := by
  obtain ⟨rows, listed, -, total⟩ := estimate_kept unruled
  obtain ⟨timeline, timed⟩ := isOk_iff.1
    (show (Timeline.hinted unruled none).isOk = true by decide +kernel)
  refine ⟨rfl, by decide +kernel, fun i member => ?_, ⟨timeline, timed, ?_, ?_⟩, total⟩
  · obtain ⟨o, here, index, p, made⟩ := made_unruled i member
    exact ⟨o, here, index, p, made, rows rfl Unit repeated _ ⟨0, 0⟩ _ () o here p made⟩
  · obtain ⟨_, _, _, _, _, ids, _⟩ := Timeline.run_of_resolve timed
    rw [← List.length_map, ids]
    rfl
  · exact listed timeline timed _ timeline.reverse_perm

end Batch

end Storyboard
