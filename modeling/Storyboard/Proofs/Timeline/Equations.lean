import Storyboard.Proofs.Validation.Agreement

/-!
# Timing equations

What the spans of the elements of a template have to do with one another, without a word on the
order in which they are worked out. The timeline solves these equations, since whatever a span was
worked out from was final by then; and where no gap runs to an end that is not given, nothing else
does, since the equations settle every element after those it depends on.
-/

namespace Storyboard

attribute [ext] Span

variable {τ : Type} [Measure τ] {t : Template τ} {timelineDuration : Option τ}
  {durationOf : Template.Element τ → Except (Failure τ) τ}

/-- The timing equations of a template, for an assignment of spans to the ids of its elements. -/
structure Template.Solves (t : Template τ) (timelineDuration : Option τ)
    (durationOf : Template.Element τ → Except (Failure τ) τ) (spans : String → Span τ) : Prop where
  absolute : ∀ e ∈ t.elements, ∀ start, e.timing = .absolute start → (spans e.id).start = start
  relative : ∀ e ∈ t.elements, ∀ id offset anchor, e.timing = .relative id offset anchor →
    (spans e.id).start = relativeStart (spans id).start (spans id).duration anchor offset
  dynamic : ∀ e ∈ t.elements, ∀ hint, e.timing = .dynamic hint →
    (spans e.id).start = Measure.zero
  provisional : ∀ e ∈ t.elements, (spans e.id).provisional = e.timing.isDynamic
  known : ∀ e ∈ t.elements, e.duration.isFillGap = false →
    durationOf e = .ok (spans e.id).duration
  gap : ∀ e next limit, t.Stands e (some next) → e.duration = .fillGap limit →
    (spans e.id).duration =
      Measure.capAt limit (Measure.nonneg ((spans next.id).start - (spans e.id).start))
  trailing : ∀ e limit length, t.Stands e none → e.duration = .fillGap limit →
    timelineDuration = some length →
    (spans e.id).duration = Measure.capAt limit (Measure.nonneg (length - (spans e.id).start))

/-- No gap runs to an end that is not given. -/
def Template.Bounded (t : Template τ) (timelineDuration : Option τ) : Prop :=
  timelineDuration.isSome = true ∨ ∀ e, t.Stands e none → e.duration.isFillGap = false

/-! ## At most one solution -/

/-- Two solutions agree on an element as soon as they agree on what it depends on and, where it
fills the rest of a timeline, on how long it lasts. -/
theorem Template.Solves.agree {a b : String → Span τ} (anchors : t.AnchorsExist)
    (solvesA : t.Solves timelineDuration durationOf a)
    (solvesB : t.Solves timelineDuration durationOf b) {e : Template.Element τ}
    {next : Option (Template.Element τ)} (stands : t.Stands e next)
    (needs : ∀ n ∈ t.elements, t.DependsOn e.id n.id → a n.id = b n.id)
    (openEnd : t.OpenGap timelineDuration e → (a e.id).start = (b e.id).start →
      (a e.id).duration = (b e.id).duration) : a e.id = b e.id := by
  have member := stands.mem
  have start : (a e.id).start = (b e.id).start := by
    cases timing : e.timing with
    | absolute start => rw [solvesA.absolute e member _ timing, solvesB.absolute e member _ timing]
    | dynamic hint => rw [solvesA.dynamic e member _ timing, solvesB.dynamic e member _ timing]
    | relative id offset anchor =>
      have anchorId : e.timing.anchorId? = some id := by rw [timing]; rfl
      obtain ⟨n, inside, rfl⟩ := anchors e member id anchorId
      rw [solvesA.relative e member _ _ _ timing, solvesB.relative e member _ _ _ timing,
        needs n inside (.anchor stands anchorId)]
  have duration : (a e.id).duration = (b e.id).duration := by
    cases fills : e.duration with
    | fillGap limit =>
      have gap : e.duration.isFillGap = true := by rw [fills]; rfl
      cases next with
      | some n =>
        rw [solvesA.gap e n limit stands fills, solvesB.gap e n limit stands fills,
          needs n stands.next_mem (.gap stands gap), start]
      | none =>
        cases given : timelineDuration with
        | some length =>
          rw [solvesA.trailing e limit length stands fills given,
            solvesB.trailing e limit length stands fills given, start]
        | none => exact openEnd ⟨given, stands, gap⟩ start
    | _ =>
      have fixed : e.duration.isFillGap = false := by rw [fills]; rfl
      exact Except.ok.inj ((solvesA.known e member fixed).symm.trans (solvesB.known e member fixed))
  have provisional : (a e.id).provisional = (b e.id).provisional := by
    rw [solvesA.provisional e member, solvesB.provisional e member]
  exact Span.ext start duration provisional

/-- Two solutions agree on every element that rests on no gap whose end is not given. -/
theorem Template.Solves.agree_apart {a b : String → Span τ} (anchors : t.AnchorsExist)
    (acyclic : t.Acyclic) (solvesA : t.Solves timelineDuration durationOf a)
    (solvesB : t.Solves timelineDuration durationOf b) {e : Template.Element τ}
    (member : e ∈ t.elements)
    (apart : ∀ g, t.OpenGap timelineDuration g → ¬ t.RestsOn e.id g.id) : a e.id = b e.id := by
  have grounded := Template.acyclic_iff.1 acyclic e member
  generalize same : e.id = id at grounded apart ⊢
  -- along the chains of dependencies, each of which ends
  induction grounded generalizing e with
  | intro id _ ih =>
    obtain ⟨next, stands⟩ := Template.exists_stands member
    subst same
    refine solvesA.agree anchors solvesB stands (fun n inside depends => ?_) fun isOpen _ =>
      absurd .refl (apart e isOpen)
    exact ih n.id depends inside rfl fun g isOpen rests => apart g isOpen (.head depends rests)

theorem Template.Solves.unique {a b : String → Span τ} (anchors : t.AnchorsExist)
    (acyclic : t.Acyclic) (bounded : t.Bounded timelineDuration)
    (solvesA : t.Solves timelineDuration durationOf a)
    (solvesB : t.Solves timelineDuration durationOf b) : ∀ e ∈ t.elements, a e.id = b e.id := by
  intro e member
  refine solvesA.agree_apart anchors acyclic solvesB member ?_
  rintro g ⟨open', stands, gap⟩
  rcases bounded with given | none
  · simp [open'] at given
  · simp [none g stands] at gap

namespace Timeline

/-! ## The timeline is a solution -/

/-- The spans of the settled places, by the ids of their elements. -/
def spanAt (ns : List (Node τ)) (p : Progress τ) (id : String) : Span τ :=
  ((place? ns id).bind p.span?).getD ⟨Measure.zero, Measure.zero, false⟩

theorem spanAt_node (distinct : t.DistinctIds) {p : Progress τ} {place : Nat} {n : Node τ}
    (inside : (nodes t)[place]? = some n) (settled : (p.span? place).isSome = true) :
    p.span? place = some (spanAt (nodes t) p n.element.id) := by
  obtain ⟨span, known⟩ := Option.isSome_iff_exists.1 settled
  simp [spanAt, place?_node distinct inside, known]

/-- What it takes for a span to be worked out. -/
theorem spanOf_ok {ns : List (Node τ)} {p : Progress τ} {n : Node τ} {span : Span τ}
    (worked : spanOf ns timelineDuration durationOf p n = .ok span) :
    startOf ns p n = .ok (span.start, span.provisional) ∧
      (n.element.duration.isFillGap = false → durationOf n.element = .ok span.duration) ∧
      ∀ limit, n.element.duration = .fillGap limit →
        gapLength p timelineDuration n span.start limit = .ok span.duration := by
  obtain ⟨⟨start, provisional⟩, began, worked⟩ := bind_ok_iff.1 worked
  cases duration : n.element.duration with
  | fillGap limit =>
    simp only [duration] at worked
    obtain ⟨length, lasts, made⟩ := bind_ok_iff.1 worked
    obtain rfl := pure_ok.1 made
    refine ⟨began, nofun, fun limit' same => ?_⟩
    cases same
    exact lasts
  | _ =>
    simp only [duration] at worked
    obtain ⟨length, lasts, made⟩ := bind_ok_iff.1 worked
    obtain rfl := pure_ok.1 made
    exact ⟨began, fun _ => lasts, nofun⟩

theorem startOf_settled {ns : List (Node τ)} {p : Progress τ} {n : Node τ} {latest start : τ}
    {provisional : Bool}
    (began : startOf ns { p with latestEnd := latest } n = .ok (start, provisional)) :
    (∀ given, n.element.timing = .absolute given → start = given) ∧
      (∀ id offset anchor, n.element.timing = .relative id offset anchor →
        start = relativeStart (spanAt ns p id).start (spanAt ns p id).duration anchor offset) ∧
      (∀ hint, n.element.timing = .dynamic hint → start = Measure.zero) ∧
      provisional = n.element.timing.isDynamic := by
  cases timing : n.element.timing with
  | absolute given =>
    simp only [startOf, timing, Except.ok.injEq, Prod.mk.injEq] at began
    obtain ⟨rfl, rfl⟩ := began
    refine ⟨?_, ?_, ?_, rfl⟩
    · intro _ same; exact Template.Timing.absolute.inj same
    · intro _ _ _ same; cases same
    · intro _ same; cases same
  | dynamic hint =>
    simp only [startOf, timing, Except.ok.injEq, Prod.mk.injEq] at began
    obtain ⟨rfl, rfl⟩ := began
    refine ⟨?_, ?_, ?_, rfl⟩
    · intro _ same; cases same
    · intro _ _ _ same; cases same
    · intro _ _; rfl
  | relative id offset anchor =>
    simp only [startOf, timing] at began
    split at began
    · next span found =>
      obtain ⟨rfl, rfl⟩ := Prod.mk.inj (Except.ok.inj began)
      have known : spanAt ns p id = span := congrArg (Option.getD · _) found
      refine ⟨?_, ?_, ?_, rfl⟩
      · intro _ same; cases same
      · intro _ _ _ same; cases same; rw [known]
      · intro _ same; cases same
    · cases began

/-- Every element has the span that follows from the spans of what it depends on. -/
theorem worked_of_stands (distinct : t.DistinctIds) {p : Progress τ}
    (reached : Reached (nodes t) timelineDuration durationOf p)
    (settled : ∀ place < (nodes t).length, (p.span? place).isSome = true)
    {e : Template.Element τ} {next : Option (Template.Element τ)} (stands : t.Stands e next) :
    ∃ n ∈ nodes t, n.element = e ∧ n.nextElement (nodes t) = next ∧ ∃ latest,
      spanOf (nodes t) timelineDuration durationOf { p with latestEnd := latest } n =
        .ok (spanAt (nodes t) p e.id) := by
  obtain ⟨n, member, rfl, after⟩ := exists_node_of_stands stands
  obtain ⟨place, bound, rfl⟩ := List.mem_iff_getElem.1 member
  have inside := List.getElem?_eq_getElem bound
  exact ⟨_, member, rfl, after, worked_of_settled reached place _ _ inside
    (spanAt_node distinct inside (settled place bound))⟩

theorem solves_of_settled (distinct : t.DistinctIds) {p : Progress τ}
    (reached : Reached (nodes t) timelineDuration durationOf p)
    (settled : ∀ place < (nodes t).length, (p.span? place).isSome = true) :
    t.Solves timelineDuration durationOf (spanAt (nodes t) p) := by
  have began : ∀ e ∈ t.elements, ∃ n : Node τ, n.element = e ∧ ∃ latest,
      startOf (nodes t) { p with latestEnd := latest } n =
        .ok ((spanAt (nodes t) p e.id).start, (spanAt (nodes t) p e.id).provisional) := by
    intro e member
    obtain ⟨next, stands⟩ := Template.exists_stands member
    obtain ⟨n, _, same, _, latest, worked⟩ := worked_of_stands distinct reached settled stands
    exact ⟨n, same, latest, (spanOf_ok worked).1⟩
  refine ⟨?_, ?_, ?_, ?_, ?_, ?_, ?_⟩
  · intro e member
    obtain ⟨n, rfl, latest, began⟩ := began e member
    exact (startOf_settled began).1
  · intro e member
    obtain ⟨n, rfl, latest, began⟩ := began e member
    exact (startOf_settled began).2.1
  · intro e member
    obtain ⟨n, rfl, latest, began⟩ := began e member
    exact (startOf_settled began).2.2.1
  · intro e member
    obtain ⟨n, rfl, latest, began⟩ := began e member
    exact (startOf_settled began).2.2.2
  · intro e member fixed
    obtain ⟨next, stands⟩ := Template.exists_stands member
    obtain ⟨n, _, rfl, _, latest, worked⟩ := worked_of_stands distinct reached settled stands
    exact (spanOf_ok worked).2.1 fixed
  · intro e next limit stands fills
    obtain ⟨n, member, rfl, after, latest, worked⟩ :=
      worked_of_stands distinct reached settled stands
    obtain ⟨place, there, found⟩ := Option.bind_eq_some_iff.1 after
    obtain ⟨m, inside, rfl⟩ := Option.map_eq_some_iff.1 found
    have bound := (List.getElem?_eq_some_iff.1 inside).1
    have known : ({ p with latestEnd := latest } : Progress τ).span? place =
        some (spanAt (nodes t) p m.element.id) := spanAt_node distinct inside (settled place bound)
    have lasts := (spanOf_ok worked).2.2 limit fills
    simp only [gapLength, there, known, Except.ok.injEq] at lasts
    exact lasts.symm
  · intro e limit length stands fills given
    obtain ⟨n, member, rfl, after, latest, worked⟩ :=
      worked_of_stands distinct reached settled stands
    have last := (nextElement_none_iff member).1 after
    have lasts := (spanOf_ok worked).2.2 limit fills
    simp only [gapLength, last, given, Option.getD_some, Except.ok.injEq] at lasts
    exact lasts.symm

/-- The timeline lists the elements in track order, each with its span. -/
theorem timeline_eq (distinct : t.DistinctIds) {p : Progress τ} {timeline : Timeline τ}
    (ids : timeline.map Prod.fst = t.elements.map (·.id))
    (spans : p.settled = timeline.map (some ·.2)) :
    timeline = t.elements.map fun e => (e.id, spanAt (nodes t) p e.id) := by
  have length : timeline.length = (nodes t).length := by
    rw [← map_id_nodes] at ids
    simpa using congrArg List.length ids
  rw [← map_element_nodes, List.map_map]
  refine List.ext_getElem (by simpa using length) fun place bound bound' => ?_
  have here : place < (nodes t).length := by rwa [← length]
  have inside := List.getElem?_eq_getElem here
  have known : p.span? place = some timeline[place].2 := by
    simp [Progress.span?, spans, bound]
  have id : timeline[place].1 = (nodes t)[place].element.id := by
    rw [← map_id_nodes] at ids
    have := List.getElem_of_eq ids (by simpa using bound)
    simpa using this
  have span := spanAt_node distinct inside (by rw [known]; rfl)
  rw [known] at span
  simp only [List.getElem_map, Function.comp_apply]
  rw [← Option.some.inj span, ← id]

/-- A timeline lists the spans of a run of rounds that has settled every place. -/
theorem settled_run_of_resolve {timeline : Timeline τ}
    (done : resolve t timelineDuration durationOf = .ok timeline) :
    ∃ p, Reached (nodes t) timelineDuration durationOf p ∧
      (∀ place < (nodes t).length, (p.span? place).isSome = true) ∧
      timeline = t.elements.map fun e => (e.id, spanAt (nodes t) p e.id) := by
  obtain ⟨distinct, _, p, reached, _, ids, spans⟩ := run_of_resolve done
  exact ⟨p, reached, fun _ => settled_of_resolve reached spans, timeline_eq distinct ids spans⟩

omit [Measure τ] in
/-- Looking a span up in a list of all elements. -/
theorem span?_map (spans : String → Span τ) (es : List (Template.Element τ)) (id : String) :
    span? (es.map fun e => (e.id, spans e.id)) id =
      if id ∈ es.map (·.id) then some (spans id) else none := by
  induction es with
  | nil => rfl
  | cons e rest ih =>
    simp only [span?, List.map_cons, List.lookup_cons, List.mem_cons] at ih ⊢
    by_cases same : id = e.id
    · simp [same]
    · simp [same, ih, beq_eq_false_iff_ne.2 same]

/-- A solution of the timing equations is the timeline, where nothing stands in its way. -/
theorem resolve_of_solves (distinct : t.DistinctIds) (anchors : t.AnchorsExist)
    (acyclic : t.Acyclic) (bounded : t.Bounded timelineDuration) {spans : String → Span τ}
    (solves : t.Solves timelineDuration durationOf spans) :
    resolve t timelineDuration durationOf = .ok (t.elements.map fun e => (e.id, spans e.id)) := by
  rcases resolve_acyclic timelineDuration durationOf distinct anchors acyclic with
    ⟨timeline, done⟩ | ⟨e, member, fixed, failure, failed, _⟩
  · obtain ⟨p, reached, settled, rfl⟩ := settled_run_of_resolve done
    have same := solves.unique anchors acyclic bounded (solves_of_settled distinct reached settled)
    rw [done]
    refine congrArg Except.ok (List.map_congr_left fun e member => ?_)
    rw [same e member]
  · simp [solves.known e member fixed] at failed

/-- **The timeline solves the timing equations**, and it is the only solution where no gap runs to
an end that is not given. -/
theorem resolve_solves (t : Template τ) (timelineDuration : Option τ)
    (durationOf : Template.Element τ → Except (Failure τ) τ) (timeline : Timeline τ)
    (done : resolve t timelineDuration durationOf = .ok timeline) :
    ∃ spans : String → Span τ, timeline = t.elements.map (fun e => (e.id, spans e.id)) ∧
      t.Solves timelineDuration durationOf spans ∧
      (t.Bounded timelineDuration → ∀ other, t.Solves timelineDuration durationOf other →
        ∀ e ∈ t.elements, other e.id = spans e.id) := by
  obtain ⟨distinct, anchors, _⟩ := run_of_resolve done
  obtain ⟨p, reached, settled, listed⟩ := settled_run_of_resolve done
  have solves := solves_of_settled distinct reached settled
  refine ⟨spanAt (nodes t) p, listed, solves, fun bounded other solves' => ?_⟩
  exact solves'.unique anchors (acyclic_of_resolve done) bounded solves

/-- An opening that follows a title, a gap up to the closing, and a closing that is itself a gap. -/
def tour : Template Rat :=
  let video : Template.Track Rat :=
    { id := "video", name := "Video", kind := .media, role := .mainVideo
      elements := [still "opening" (.relative "title" 1 .start),
        { still "bridge" (.relative "opening" 0 .finish) with duration := .fillGap none },
        { still "closing" (.absolute 8) with duration := .fillGap (some 3) }] }
  let text : Template.Track Rat :=
    { id := "text", name := "Text", kind := .text, role := .title
      elements := [still "title" (.absolute 2)] }
  { Template.new "tour" "Tour" .landscape ⟨0, 0⟩ with tracks := [video, text] }

theorem solves_tour :
    ∃ timeline, resolve tour (some 12) (fun _ => .ok 1) = .ok timeline ∧
      ∃ spans : String → Span Rat, timeline = tour.elements.map (fun e => (e.id, spans e.id)) ∧
        tour.Solves (some 12) (fun _ => .ok 1) spans ∧
        ∀ other, tour.Solves (some 12) (fun _ => .ok 1) other →
          ∀ e ∈ tour.elements, other e.id = spans e.id := by
  rcases resolve_acyclic (some 12) (fun _ => .ok 1) (by decide : tour.DistinctIds) (by decide)
    (by decide) with ⟨timeline, done⟩ | ⟨_, _, _, _, failed, _⟩
  · obtain ⟨spans, listed, solves, only⟩ := resolve_solves tour _ _ timeline done
    exact ⟨timeline, done, spans, listed, solves, only (.inl rfl)⟩
  · cases failed

end Timeline

end Storyboard
