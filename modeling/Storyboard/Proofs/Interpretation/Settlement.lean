import Storyboard.Interpretation.Rules
import Storyboard.Proofs.Interpretation.Mirror
import Storyboard.Proofs.Rule.Effects
import Storyboard.Proofs.Timeline.Equations

/-!
# Rules settle dynamic starts

A timeline marks the elements whose starts are dynamic and places them at zero. The marks reach the
elements of the project, and rules take a mark away exactly where they set a start. So a start is
still to be settled where it was dynamic and no effect has set it, whatever the rules have looked
at, the marks included.
-/

namespace Storyboard

open Project (Element Track)

/-! ## Effects on one element -/

/-- Of elements with distinct ids, two with the same id are one element of one track. -/
theorem Project.eq_of_same_id {tracks : List (Track Float)}
    (distinct : ((tracks.flatMap (·.elements)).map (·.id)).Nodup) {t u : Track Float}
    (here : t ∈ tracks) (there : u ∈ tracks) {e x : Element Float} (inside : e ∈ t.elements)
    (within : x ∈ u.elements) (same : e.id = x.id) : t = u ∧ e = x := by
  have unique : ((tracks.flatMap fun t => t.elements.map (t, ·)).map (·.2.id)).Nodup := by
    simpa only [List.map_flatMap, List.map_map, Function.comp_def] using distinct
  have pair : ∀ {t : Track Float} {e : Element Float}, t ∈ tracks → e ∈ t.elements →
      (t, e) ∈ tracks.flatMap fun t => t.elements.map (t, ·) := fun here inside =>
    List.mem_flatMap.2 ⟨_, here, List.mem_map.2 ⟨_, inside, rfl⟩⟩
  exact Prod.mk.inj (List.inj_on_of_nodup_map unique (pair here inside) (pair there within) same)

/-- Where ids are distinct, the effects with the id of an element are those on it alone. -/
theorem Rule.isEffect_iff_alone {rules : List Rule} {tracks : List (Track Float)}
    (distinct : ((tracks.flatMap (·.elements)).map (·.id)).Nodup) {t : Track Float}
    (here : t ∈ tracks) {e : Element Float} (inside : e ∈ t.elements) {f : Effect} :
    IsEffect rules tracks f ∧ f.elementId = e.id ↔ f ∈ allEffectsAlone rules t e := by
  constructor
  · rintro ⟨⟨u, there, x, within, effect⟩, named⟩
    obtain ⟨rfl, rfl⟩ := Project.eq_of_same_id distinct here there inside within
      (named.symm.trans (elementId_allEffectsAlone effect))
    exact effect
  · intro effect
    exact ⟨⟨t, here, e, inside, effect⟩, elementId_allEffectsAlone effect⟩

namespace Project

variable {p q : Project Float} {rules : List Rule} {report : Rule.Report}

/-- Some effect of a project has set the start of an element. -/
def SetsStart (p : Project Float) (id : String) : Prop :=
  ∃ f ∈ p.provenance.effects, f.Names .setStartTime id

/-- What rules make of an element of a project that has had no effects yet. -/
structure Element.Settled (q : Project Float) (before after : Element Float) : Prop where
  id : after.id = before.id
  provisional : after.provisional = true ↔ before.provisional = true ∧ ¬ q.SetsStart after.id
  start : ¬ q.SetsStart after.id → after.start = before.start

/-- An element on its own is settled by the effects on it alone, which are those that name it. -/
theorem settled_allAlone (distinct : (p.elements.map (·.id)).Nodup)
    (recorded : ∀ f, f ∈ q.provenance.effects ↔ Rule.IsEffect rules p.tracks f)
    {t : Track Float} (here : t ∈ p.tracks) {e : Element Float} (inside : e ∈ t.elements) :
    e.Settled q (Rule.allAlone rules t e) := by
  have told := Rule.told_allAlone rules t e
  have sets : q.SetsStart e.id ↔
      ∃ f ∈ Rule.allEffectsAlone rules t e, f.action = .setStartTime := by
    simp only [SetsStart, Effect.Names, recorded, ← Rule.isEffect_iff_alone distinct here inside]
    exact exists_congr fun f => and_assoc.symm.trans and_right_comm
  refine ⟨told.id, ?_, fun unset => ?_⟩
  · rw [Rule.provisional_allAlone, told.id, sets]
    simp only [not_exists, not_and, ne_eq]
  · rw [told.id, sets] at unset
    rcases told.start with same | ⟨f, member, kind, _⟩
    · exact same
    · exact absurd ⟨f, member, kind⟩ unset

/-- Where ids are distinct, the element with the id noted for a template element is the one found
for it. -/
theorem elementFor?_of_nodup (distinct : (p.elements.map (·.id)).Nodup) {id : String}
    {x : Element Float} (listed : p.provenance.elementIds.get? id = some x.id)
    (member : x ∈ p.elements) : p.elementFor? id = some x := by
  rw [elementFor?, listed, Option.bind_some]
  exact find?_of_nodup distinct member

theorem id_of_elementFor? {id : String} {x : Element Float} (found : p.elementFor? id = some x) :
    p.provenance.elementIds.get? id = some x.id := by
  obtain ⟨made, listed, first⟩ := Option.bind_eq_some_iff.1 found
  have named : x.id = made := by simpa using List.find?_some first
  rw [listed, named]

/-- Rules that are carried out on a project without effects settle each of its elements, and what
they make of the element found for a template element is what is found for that one afterwards. -/
theorem applyRules_settled (fresh : p.provenance.effects = [])
    (distinct : (p.elements.map (·.id)).Nodup) (done : p.applyRules rules = (q, .ok report)) :
    q.provenance.effects = report.effects ∧
      List.Forall₂ (fun track made => List.Forall₂ (fun e x => e.Settled q x ∧
        ∀ id, p.elementFor? id = some e → q.elementFor? id = some x)
        track.elements made.elements) p.tracks q.tracks := by
  obtain ⟨ran, recorded⟩ := applyRules_ok (congrArg Prod.snd done)
  have same := (Prod.mk.inj (done.symm.trans ran)).1
  have tracks : q.tracks = p.tracks.map fun t =>
      t.mapElements (Rule.allAlone (rules.filter (·.enabled)) t) := by rw [same]; rfl
  have listed : q.provenance.elementIds = p.provenance.elementIds := by rw [same]; rfl
  have effects : q.provenance.effects = report.effects := by
    rw [same]
    exact congrArg (· ++ report.effects) fresh
  have unique : (q.elements.map (·.id)).Nodup := by
    rw [elements, tracks, Rule.map_id_allAlone]
    exact distinct
  refine ⟨effects, ?_⟩
  rw [← effects] at recorded
  refine tracks ▸ List.forall₂_map_right_iff.2 (List.forall₂_same.2 fun t here => ?_)
  refine List.forall₂_map_right_iff.2 (List.forall₂_same.2 fun e inside => ?_)
  have settled := settled_allAlone distinct recorded here inside
  refine ⟨settled, fun id found => elementFor?_of_nodup unique ?_ ?_⟩
  · rw [listed, settled.id, id_of_elementFor? found]
  · have there : t.mapElements (Rule.allAlone (rules.filter (·.enabled)) t) ∈ q.tracks :=
      tracks ▸ List.mem_map_of_mem here
    exact List.mem_flatMap.2 ⟨_, there, List.mem_map_of_mem inside⟩

end Project

/-! ## Starts of a timeline -/

/-- A timeline marks the elements whose starts are dynamic, and places them at zero. -/
theorem Timeline.waiting_of_resolve {τ : Type} [Measure τ] {t : Template τ}
    {timelineDuration : Option τ} {durationOf : Template.Element τ → Except (Failure τ) τ}
    {timeline : Timeline τ} (done : resolve t timelineDuration durationOf = .ok timeline)
    {e : Template.Element τ} (member : e ∈ t.elements) {span : Span τ}
    (known : timeline.span? e.id = some span) :
    span.provisional = e.timing.isDynamic ∧
      (span.provisional = true → span.start = Measure.zero) := by
  obtain ⟨p, reached, settled, rfl⟩ := settled_run_of_resolve done
  have solves := solves_of_settled (run_of_resolve done).1 reached settled
  rw [span?_map, if_pos (List.mem_map_of_mem member)] at known
  obtain rfl := Option.some.inj known
  have provisional := solves.provisional e member
  refine ⟨provisional, fun waiting => ?_⟩
  rw [provisional] at waiting
  cases timing : e.timing with
  | dynamic hint => exact solves.dynamic e member hint timing
  | _ => simp [timing, Template.Timing.isDynamic] at waiting

/-! ## Filling with rules -/

/-- An element of a project stands where a template element does, with its start settled: it is
still to be settled where it is dynamic and no effect has set it, and what no effect has set is as
the timeline has it. -/
structure Project.Settles (p : Project Float) (timeline : Timeline Float)
    (e : Template.Element Float) (x : Element Float) : Prop where
  /-- It is what is found for the template element. -/
  found : p.elementFor? e.id = some x
  provisional : x.provisional = true ↔ e.timing.isDynamic = true ∧ ¬ p.SetsStart x.id
  waiting : x.provisional = true → x.start = Measure.zero
  kept : ¬ p.SetsStart x.id → ∃ span, timeline.span? e.id = some span ∧ x.start = span.start

namespace Template

variable {ω : Type} {t : Template Float} {c : Collaborators Float ω} {inputs : Inputs Float}
  {options : FillOptions Float} {now : Instant} {ids left : IdSupply} {w : ω}
  {p made : Project Float} {report : Rule.Report}

theorem settle_ok_iff {drawn : IdSupply} :
    t.settle (made, drawn) = .ok (p, report, left) ↔
      made.applyRules t.rules = (p, .ok report) ∧ drawn = left := by
  unfold settle
  split
  · next refused => simp [refused]
  · next carried => simp [carried, and_assoc]

/-- The image of an element with its start settled. -/
theorem settles_of_image {timeline : Timeline Float}
    {content : Element Float → Except (Failure Float) (Option (Project.Content Float))}
    {durationOf : Element Float → Except (Failure Float) Float}
    {timelineDuration : Option Float}
    (timed : Timeline.resolve t timelineDuration durationOf = .ok timeline)
    {e : Element Float} (member : e ∈ t.elements) {x y : Project.Element Float}
    (image : made.Image t timeline content e x) (settled : x.Settled p y)
    (found : ∀ id, made.elementFor? id = some x → p.elementFor? id = some y) :
    p.Settles timeline e y := by
  obtain ⟨provisional, waiting⟩ := Timeline.waiting_of_resolve timed member image.span
  refine ⟨found _ image.found, ?_, fun still => ?_, fun unset => ?_⟩
  · rw [settled.provisional, ← provisional]
  · obtain ⟨before, unset⟩ := settled.provisional.1 still
    exact (settled.start unset).trans (waiting before)
  · exact ⟨_, image.span, settled.start unset⟩

/-- **Rules settle dynamic starts**: in what a template with rules is filled with, a start is still
to be settled where it is dynamic and no effect has set it; it is zero until then; and a start that
no effect has set is that of the timeline. -/
theorem interpretWithRules_settles (names : Function.Injective ids.name)
    (done : (t.interpretWithRules c inputs options now ids w).1 = .ok (p, report, left)) :
    ∃ prepared timeline, (t.prepare c inputs w).1 = .ok prepared ∧
      Timeline.resolve t options.timelineDuration (durationOf prepared.inputs options) =
        .ok timeline ∧
      p.provenance.effects = report.effects ∧
      List.Forall₂ (fun track made => List.Forall₂ (p.Settles timeline)
        (track.elements.filter (·.hasContent (t.withDefaults inputs))) made.elements)
        t.tracks p.tracks := by
  obtain ⟨⟨made, drawn⟩, interpreted, settled⟩ := bind_ok_iff.1 done
  obtain ⟨prepared, ready, completed⟩ := interpret_ok_iff.1 interpreted
  obtain ⟨_, _, _, timeline, filled, timed, contents, built⟩ := interpretPrepared_ok_iff.1 completed
  have keeping : ∀ kind e made, substitute c prepared.inputs kind e = .ok made →
      made.isSome = e.hasContent (t.withDefaults inputs) := fun kind e made shown => by
    rw [substitute_isSome shown, hasContent_prepare ready]
  have mirrors := build_mirrors (Timeline.run_of_resolve timed).1 names keeping contents built
  have fresh : made.provenance.effects = [] := by
    cases built
    rfl
  obtain ⟨effects, settled⟩ := Project.applyRules_settled fresh (nodup_build built names)
    (settle_ok_iff.1 settled).1
  refine ⟨prepared, timeline, ready, timed, effects, ?_⟩
  refine forall₂_trans ?_ (forall₂_mem_zip mirrors.tracks) settled
  rintro track between after ⟨⟨_, images⟩, here⟩ settled
  refine forall₂_trans ?_ (forall₂_mem_zip images) settled
  rintro e x y ⟨image, there⟩ ⟨settled, found⟩
  have inside := List.mem_of_mem_filter (List.of_mem_zip there).1
  exact settles_of_image timed (List.mem_flatMap.2 ⟨track, (List.of_mem_zip here).1, inside⟩)
    image settled found

/-- Two starts left to rules, one of which a rule sets that looks at whether it is settled, while
another rule fails to set the other. -/
def teleprompter : Template Float :=
  let line (id text : String) : Element Float :=
    { id, name := id, timing := .dynamic none, duration := .fixed 2.0
      content := .fixed (some text) none }
  let opening : Element Float :=
    { line "opening" "Hi" with timing := .absolute 1.5 }
  let lines : Track Float :=
    { id := "lines", name := "Lines", kind := .text, role := .title
      elements := [opening, line "first" "A first line", line "second" "A second line"] }
  let waiting : Condition :=
    { field := "timingProvisional", operator := .equals, value := .bool true }
  { (Template.new "teleprompter" "Teleprompter" .landscape ⟨0, 0⟩ : Template Float) with
    tracks := [lines]
    rules := [{ id := "place", name := "Place"
                conditions := [waiting,
                  { field := "textContent", operator := .contains, value := .str "first" }]
                actions := [{ kind := .setStartTime, value := some (.int 4) }] },
      { id := "later", name := "Later", conditions := [waiting]
        actions := [{ kind := .setStartTime, value := some (.str "later") }] }] }

theorem interpretWithRules_teleprompter :
    Function.Injective tally ∧ ∃ p report left timeline,
      (teleprompter.interpretWithRules (ω := Unit) .none [] {} ⟨0, 0⟩ ⟨tally, 0⟩ ()).1 =
        .ok (p, report, left) ∧
      p.elements.map (fun x => (x.name, x.provisional)) =
        [("opening", false), ("first", false), ("second", true)] ∧
      List.Forall₂ (fun track made => List.Forall₂ (p.Settles timeline)
        (track.elements.filter (·.hasContent (teleprompter.withDefaults []))) made.elements)
        teleprompter.tracks p.tracks := by
  have ordered : teleprompter.orderedPlaceholders = teleprompter.placeholders :=
    List.mergeSort_of_pairwise (by decide)
  obtain ⟨p, report, left, done, marks⟩ : ∃ p report left,
      (teleprompter.interpretWithRules (ω := Unit) .none [] {} ⟨0, 0⟩ ⟨tally, 0⟩ ()).1 =
        .ok (p, report, left) ∧
      p.elements.map (fun x => (x.name, x.provisional)) =
        [("opening", false), ("first", false), ("second", true)] := by
    rw [interpretWithRules, interpret, prepare, withDefaults, given, defaulted, ordered]
    exact ⟨_, _, _, rfl, rfl⟩
  obtain ⟨_, timeline, _, _, _, settled⟩ := interpretWithRules_settles tally_injective done
  exact ⟨tally_injective, p, report, left, timeline, done, marks, settled⟩

end Template

end Storyboard
