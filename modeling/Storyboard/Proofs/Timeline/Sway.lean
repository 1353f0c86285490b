import Storyboard.Proofs.Timeline.OpenGaps

/-!
# What the order of gaps can sway

Where neither of two gaps whose ends are not given rests on the other, one of them is taken first,
and how long it lasts may hang on which one that is: an element that does not rest on a gap may be
settled before the gap or after it, and may end later than all that is settled before the gap in any
case. What is worked out from such a length may differ with it. All other starts and lengths are the
same whichever gap is taken first.
-/

namespace Storyboard

variable {τ : Type} [Measure τ] {t : Template τ} {timelineDuration : Option τ}
  {durationOf : Template.Element τ → Except (Failure τ) τ}

/-- One of the times of a span. -/
inductive SpanTime where
  | start
  | length

/-- The time of a span that is asked for. -/
def Span.get (s : Span τ) : SpanTime → τ
  | .start => s.start
  | .length => s.duration

/-- How long a gap with a span's start lasts if it runs to a time. -/
def Span.lengthTo (s : Span τ) (limit : Option τ) (finish : τ) : τ :=
  Measure.capAt limit (Measure.nonneg (finish - s.start))

/-- A time is the latest end of what is settled before a gap in any case. -/
def Template.EarlyEnd (t : Template τ) (timelineDuration : Option τ) (spans : String → Span τ)
    (g : Template.Element τ) (early : τ) : Prop :=
  Measure.IsLatest early (t.endsOf spans fun id => t.Before timelineDuration id g.id)

/-- A start or a length that may hang on which gap is taken first. -/
inductive Template.Swayed (t : Template τ) (timelineDuration : Option τ) (spans : String → Span τ) :
    SpanTime → String → Prop where
  /-- The gap would last otherwise if it ran to the end of an element that may be settled before it or
  after it, and that ends later than all that is settled before the gap in any case. -/
  | passed {g f : Element τ} {limit : Option τ} {early : τ} : t.OpenGap timelineDuration g →
      g.duration = .fillGap limit → f ∈ t.elements → ¬ t.RestsOn f.id g.id →
      t.EarlyEnd timelineDuration spans g early → Measure.lt early (spans f.id).finish = true →
      (spans g.id).lengthTo limit (spans f.id).finish ≠ (spans g.id).lengthTo limit early →
      Swayed t timelineDuration spans .length g.id
  /-- The end of an element is swayed that is settled before the gap in any case. -/
  | heeded {g f : Element τ} {time : SpanTime} : t.OpenGap timelineDuration g → f ∈ t.elements →
      t.Before timelineDuration f.id g.id → Swayed t timelineDuration spans time f.id →
      Swayed t timelineDuration spans .length g.id
  /-- The end of an element is swayed that may be settled before the gap or after it, and the gap would
  last otherwise if it ran to some later end. -/
  | crossed {g f : Element τ} {limit : Option τ} {early later : τ} {time : SpanTime} :
      t.OpenGap timelineDuration g → g.duration = .fillGap limit → f ∈ t.elements →
      ¬ t.RestsOn f.id g.id → t.EarlyEnd timelineDuration spans g early →
      Measure.lt early later = true →
      (spans g.id).lengthTo limit later ≠ (spans g.id).lengthTo limit early →
      Swayed t timelineDuration spans time f.id → Swayed t timelineDuration spans .length g.id
  | anchor {e : Element τ} {id : String} {offset : τ} {anchor : Anchor} : e ∈ t.elements →
      e.timing = .relative id offset anchor → Swayed t timelineDuration spans .start id →
      Swayed t timelineDuration spans .start e.id
  | finish {e : Element τ} {id : String} {offset : τ} : e ∈ t.elements →
      e.timing = .relative id offset .finish → Swayed t timelineDuration spans .length id →
      Swayed t timelineDuration spans .start e.id
  | filled {e : Element τ} : e ∈ t.elements → e.duration.isFillGap = true →
      Swayed t timelineDuration spans .start e.id → Swayed t timelineDuration spans .length e.id
  | next {e n : Element τ} : t.Stands e (some n) → e.duration.isFillGap = true →
      Swayed t timelineDuration spans .start n.id → Swayed t timelineDuration spans .length e.id

namespace Template

/-! ## Latest ends -/

theorem exists_earlyEnd [OrderedMeasure τ] (t : Template τ) (timelineDuration : Option τ)
    (spans : String → Span τ) (g : Element τ) : ∃ early, t.EarlyEnd timelineDuration spans g early := by
  classical
  have latest := Measure.isLatest_latest
    ((t.elements.filter fun f => t.Before timelineDuration f.id g.id).map (spans ·.id |>.finish))
  have same : {x | x ∈ (t.elements.filter fun f => t.Before timelineDuration f.id g.id).map
      (spans ·.id |>.finish)} = t.endsOf spans fun id => t.Before timelineDuration id g.id := by
    ext x
    simp [endsOf, and_assoc]
  exact ⟨_, same ▸ latest⟩

theorem EarlyEnd.congr {a b : String → Span τ} {g : Element τ} {early : τ}
    (first : t.EarlyEnd timelineDuration a g early)
    (same : ∀ f ∈ t.elements, t.Before timelineDuration f.id g.id →
      (a f.id).finish = (b f.id).finish) : t.EarlyEnd timelineDuration b g early := by
  unfold EarlyEnd at first ⊢
  rwa [← endsOf_congr same]

/-- The latest end of earlier elements is that of what is settled in any case, or a later one of
those elements. -/
theorem EarlyEnd.latest [OrderedMeasure τ] {spans : String → Span τ} {g : Element τ}
    {earlier : String → Prop} {early latest : τ}
    (first : t.EarlyEnd timelineDuration spans g early)
    (before : ∀ f ∈ t.elements, t.Before timelineDuration f.id g.id → earlier f.id)
    (is : Measure.IsLatest latest (t.endsOf spans earlier)) :
    latest = early ∨ Measure.lt early latest = true ∧
      ∃ f ∈ t.elements, earlier f.id ∧ (spans f.id).finish = latest := by
  cases higher : Measure.lt early latest with
  | false =>
    have notBelow := is.not_lt first (endsOf_subset before)
    exact .inl (is.eq_of_not_lt first notBelow higher)
  | true =>
    rcases is.attained with rfl | ⟨member, _⟩
    · cases higher.symm.trans first.not_lt_zero
    · exact .inr ⟨rfl, member⟩

/-- A gap that is not swayed lasts as if it ran to the latest end of what is settled in any case. -/
theorem RanPast.steady [OrderedMeasure τ] {spans : String → Span τ} {g : Element τ}
    {limit : Option τ} {earlier : String → Prop} {early : τ}
    (ran : t.RanPast timelineDuration spans g limit earlier)
    (gap : t.OpenGap timelineDuration g) (fills : g.duration = .fillGap limit)
    (first : t.EarlyEnd timelineDuration spans g early)
    (steady : ¬ t.Swayed timelineDuration spans .length g.id) :
    (spans g.id).duration = (spans g.id).lengthTo limit early := by
  obtain ⟨before, apart, finish, latest, lasts⟩ := ran
  rw [lasts]
  rcases first.latest before latest with rfl | ⟨later, f, member, chosen, rfl⟩
  · rfl
  · by_contra other
    exact steady (.passed gap fills member (apart f member chosen) first later other)

/-! ## What is not swayed -/

end Template

namespace Timeline

/-! ## The same times whichever gap is taken first -/

variable {a : String → Span τ} {p : Progress τ} {n : Node τ} {span : Span τ}

/-- The settled elements have the given spans, but for what may be swayed. -/
def Agrees (t : Template τ) (timelineDuration : Option τ) (a : String → Span τ) (p : Progress τ) :
    Prop :=
  ∀ id, Known t p id → ∀ time, ¬ t.Swayed timelineDuration a time id →
    (spanAt (nodes t) p id).get time = (a id).get time

omit [Measure τ] in
/-- What an element needs is settled when the element is. -/
theorem known_of_ready (distinct : t.DistinctIds) (anchors : t.AnchorsExist) (member : n ∈ nodes t)
    (ready : ∀ need ∈ needs (nodes t) n, (p.span? need).isSome = true) {id : String}
    (depends : t.DependsOn n.element.id id) : Known t p id := by
  obtain ⟨need, needed, m, there, rfl⟩ := exists_need_of_dependsOn distinct anchors member depends
  exact ⟨need, m, there, rfl, ready need needed⟩

/-- A start that is not swayed is the same. -/
theorem Agrees.start (agrees : Agrees t timelineDuration a p) (distinct : t.DistinctIds)
    (anchors : t.AnchorsExist) (solves : t.Solves timelineDuration durationOf a)
    (member : n ∈ nodes t)
    (ready : ∀ need ∈ needs (nodes t) n, (p.span? need).isSome = true)
    (worked : spanOf (nodes t) timelineDuration durationOf p n = .ok span)
    (steady : ¬ t.Swayed timelineDuration a .start n.element.id) :
    span.start = (a n.element.id).start := by
  have stands := stands_of_mem_nodes member
  obtain ⟨absolute, relative, dynamic, _⟩ := startOf_settled (spanOf_ok worked).1
  cases timing : n.element.timing with
  | absolute given => rw [absolute _ timing, solves.absolute _ stands.mem _ timing]
  | dynamic hint => rw [dynamic _ timing, solves.dynamic _ stands.mem _ timing]
  | relative id offset anchor =>
    rw [relative _ _ _ timing, solves.relative _ stands.mem _ _ _ timing]
    have known : Known t p id :=
      known_of_ready distinct anchors member ready (.anchor stands (by rw [timing]; rfl))
    have starts := agrees id known .start fun swayed => steady (.anchor stands.mem timing swayed)
    cases anchor with
    | start => exact congrArg (· + offset) starts
    | finish =>
      have lasts := agrees id known .length fun swayed => steady (.finish stands.mem timing swayed)
      exact congrArg₂ (fun start length => start + length + offset) starts lasts

/-- A gap whose end is not given runs to the same end, unless it is swayed. -/
theorem Agrees.gap [OrderedMeasure τ] (agrees : Agrees t timelineDuration a p)
    (distinct : t.DistinctIds) (anchors : t.AnchorsExist) (acyclic : t.Acyclic)
    (ran : t.GapsRan timelineDuration a)
    (reached : Reached (nodes t) timelineDuration durationOf p) {place : Nat} {q : Progress τ}
    (next : p.next? = some (place, q)) (inside : (nodes t)[place]? = some n)
    (worked : spanOf (nodes t) timelineDuration durationOf p n = .ok span)
    (gap : t.OpenGap timelineDuration n.element) {limit : Option τ}
    (fills : n.element.duration = .fillGap limit)
    (starts : span.start = (a n.element.id).start)
    (steady : ¬ t.Swayed timelineDuration a .length n.element.id) :
    span.duration = (a n.element.id).duration := by
  obtain ⟨early, first⟩ := t.exists_earlyEnd timelineDuration a n.element
  obtain ⟨_, past⟩ := ran _ limit gap fills
  have finish_eq {f : Template.Element τ} (known : Known t p f.id)
      (steady : ∀ time, ¬ t.Swayed timelineDuration a time f.id) :
      (a f.id).finish = (spanAt (nodes t) p f.id).finish :=
    congrArg₂ (fun start length => start + length) (agrees f.id known .start (steady _)).symm
      (agrees f.id known .length (steady _)).symm
  have before : ∀ f ∈ t.elements, t.Before timelineDuration f.id n.element.id → Known t p f.id :=
    fun _ => known_of_before distinct anchors acyclic reached next inside gap
  -- what is settled in any case ends when it is given to
  have first' : t.EarlyEnd timelineDuration (spanAt (nodes t) p) n.element early :=
    first.congr fun f member ahead => finish_eq (before f member ahead) fun _ swayed =>
      steady (.heeded gap member ahead swayed)
  have latest : Measure.IsLatest p.latestEnd (t.endsOf (spanAt (nodes t) p) (Known t p)) :=
    ends_eq_endsOf distinct reached.sound ▸ Reached.isLatest reached
  have here : (a n.element.id).lengthTo limit p.latestEnd =
      (a n.element.id).lengthTo limit early := by
    rcases first'.latest before latest with same | ⟨later, f, member, known, ends⟩
    · rw [same]
    · -- a later end that counts is that of an element that is not swayed either
      by_contra other
      have apart := apart_of_known distinct anchors reached.sound next inside known
      have same := (finish_eq known fun _ swayed =>
        steady (.crossed gap fills member apart first later other swayed)).trans ends
      rw [← same] at later other
      exact steady (.passed gap fills member apart first later other)
  rw [past.steady gap fills first steady, ← here, Span.lengthTo, ← starts]
  exact length_openGap (List.mem_of_getElem? inside) gap fills worked distinct

/-- A length that is not swayed is the same. -/
theorem Agrees.length [OrderedMeasure τ] (agrees : Agrees t timelineDuration a p)
    (distinct : t.DistinctIds) (anchors : t.AnchorsExist) (acyclic : t.Acyclic)
    (solves : t.Solves timelineDuration durationOf a) (ran : t.GapsRan timelineDuration a)
    (reached : Reached (nodes t) timelineDuration durationOf p) {place : Nat} {q : Progress τ}
    (next : p.next? = some (place, q)) (inside : (nodes t)[place]? = some n)
    (ready : ∀ need ∈ needs (nodes t) n, (p.span? need).isSome = true)
    (worked : spanOf (nodes t) timelineDuration durationOf p n = .ok span)
    (steady : ¬ t.Swayed timelineDuration a .length n.element.id) :
    span.duration = (a n.element.id).duration := by
  have member := List.mem_of_getElem? inside
  have stands := stands_of_mem_nodes member
  cases fills : n.element.duration with
  | fillGap limit =>
    have gap : n.element.duration.isFillGap = true := by rw [fills]; rfl
    have starts := agrees.start distinct anchors solves member ready worked fun swayed =>
      steady (.filled stands.mem gap swayed)
    have lasts := (spanOf_ok worked).2.2 limit fills
    cases after : n.next with
    | some there =>
      have bound := closed_nodes t n member there (by simp [needs, gap, after])
      have here := List.getElem?_eq_getElem bound
      have follows : n.nextElement (nodes t) = some (nodes t)[there].element := by
        simp [Node.nextElement, after, here]
      rw [follows] at stands
      have settled := ready there (by simp [needs, gap, after])
      have known := (known_iff distinct here).2 settled
      have later := agrees _ known .start fun swayed => steady (.next stands gap swayed)
      simp only [gapLength, after, spanAt_node distinct here settled, Except.ok.injEq] at lasts
      rw [solves.gap _ _ limit stands fills, ← lasts, starts]
      exact congrArg (fun start => Measure.capAt limit (Measure.nonneg (start - _))) later
    | none =>
      rw [(nextElement_none_iff member).2 after] at stands
      cases given : timelineDuration with
      | some length =>
        subst given
        simp only [gapLength, after, Option.getD_some, Except.ok.injEq] at lasts
        rw [solves.trailing _ limit length stands fills rfl, ← lasts, starts]
      | none =>
        exact agrees.gap distinct anchors acyclic ran reached next inside worked
          ⟨given, stands, gap⟩ fills starts steady
  | _ =>
    have fixed : n.element.duration.isFillGap = false := by rw [fills]; rfl
    have known := solves.known _ stands.mem fixed
    exact Except.ok.inj (((spanOf_ok worked).2.1 fixed).symm.trans known)

end Timeline

end Storyboard
