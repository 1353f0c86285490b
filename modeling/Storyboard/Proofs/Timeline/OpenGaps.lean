import Storyboard.Proofs.Timeline.Equations
import Storyboard.Proofs.Timeline.LatestEnd

/-!
# Gaps whose end is not given

Where a timeline has no given length, a gap at the end of a track runs to the latest end of what is
settled when the gap is taken. Nothing that rests on the gap is settled then, and nothing is missing
that could be settled before: whatever is not settled rests on such a gap that this one does not need.
So a gap runs to the latest end of the elements that do not rest on it, as long as of this gap and any
other one rests on the other. Of two gaps neither of which rests on the other, the one that is taken
first runs without regard to the second.
-/

namespace Storyboard

open Template (RestsOn)

variable {τ : Type} {t : Template τ} {timelineDuration : Option τ}

/-- Of a gap and any gap whose end is not given one rests on the other. -/
def Template.InLine (t : Template τ) (timelineDuration : Option τ) (g : Template.Element τ) : Prop :=
  ∀ h, t.OpenGap timelineDuration h → t.RestsOn g.id h.id ∨ t.RestsOn h.id g.id

/-- An element can be settled before another one: the other needs each gap that it rests on and whose
end is not given. -/
def Template.Before (t : Template τ) (timelineDuration : Option τ) (id other : String) : Prop :=
  ∀ h, t.OpenGap timelineDuration h → t.RestsOn id h.id → Relation.TransGen t.DependsOn other h.id

/-- The ends of the elements whose ids are chosen. -/
def Template.endsOf [Measure τ] (t : Template τ) (spans : String → Span τ)
    (chosen : String → Prop) : Set τ :=
  {x | ∃ f ∈ t.elements, chosen f.id ∧ (spans f.id).finish = x}

/-- The ends of the elements that do not rest on an element. -/
def Template.endsApart [Measure τ] (t : Template τ) (spans : String → Span τ) (id : String) :
    Set τ :=
  {x | ∃ f ∈ t.elements, ¬ t.RestsOn f.id id ∧ (spans f.id).finish = x}

/-- A gap whose end is not given has run to the latest end of earlier elements: all that can be settled
before it are among them, and none that rests on it is. -/
structure Template.RanPast [Measure τ] (t : Template τ) (timelineDuration : Option τ)
    (spans : String → Span τ) (e : Template.Element τ) (limit : Option τ)
    (earlier : String → Prop) : Prop where
  before : ∀ f ∈ t.elements, t.Before timelineDuration f.id e.id → earlier f.id
  apart : ∀ f ∈ t.elements, earlier f.id → ¬ t.RestsOn f.id e.id
  length : ∃ finish, Measure.IsLatest finish (t.endsOf spans earlier) ∧
    (spans e.id).duration = Measure.capAt limit (Measure.nonneg (finish - (spans e.id).start))

/-- Every gap whose end is not given has run so. -/
def Template.GapsRan [Measure τ] (t : Template τ) (timelineDuration : Option τ)
    (spans : String → Span τ) : Prop :=
  ∀ e limit, t.OpenGap timelineDuration e → e.duration = .fillGap limit →
    ∃ earlier, t.RanPast timelineDuration spans e limit earlier

/-- Every gap whose end is not given, and that is in line with all others, runs to the latest end of
the elements that do not rest on it. -/
def Template.GapsRunOut [Measure τ] (t : Template τ) (timelineDuration : Option τ)
    (spans : String → Span τ) : Prop :=
  ∀ e limit, t.OpenGap timelineDuration e → e.duration = .fillGap limit →
    t.InLine timelineDuration e →
    ∃ finish, Measure.IsLatest finish (t.endsApart spans e.id) ∧
      (spans e.id).duration =
        Measure.capAt limit (Measure.nonneg (finish - (spans e.id).start))

namespace Template

/-- What does not rest on a gap in line can be settled before it. -/
theorem InLine.before {g : Element τ} (line : t.InLine timelineDuration g) {id : String}
    (apart : ¬ t.RestsOn id g.id) : t.Before timelineDuration id g.id := by
  intro h gap rests
  rcases line h gap with forth | back
  · rcases Relation.reflTransGen_iff_eq_or_transGen.1 forth with same | needs
    · exact absurd (same ▸ rests) apart
    · exact needs
  · exact absurd (rests.trans back) apart

variable [Measure τ]

/-- The ends of elements, by spans that agree on those. -/
theorem endsOf_congr {a b : String → Span τ} {chosen : String → Prop}
    (same : ∀ f ∈ t.elements, chosen f.id → (a f.id).finish = (b f.id).finish) :
    t.endsOf a chosen = t.endsOf b chosen := by
  ext x
  refine exists_congr fun f => and_congr_right fun member => and_congr_right fun here => ?_
  rw [same f member here]

theorem endsOf_subset {spans : String → Span τ} {chosen others : String → Prop}
    (more : ∀ f ∈ t.elements, chosen f.id → others f.id) :
    t.endsOf spans chosen ⊆ t.endsOf spans others := by
  rintro x ⟨f, member, here, rfl⟩
  exact ⟨f, member, more f member here, rfl⟩

theorem RanPast.congr {a b : String → Span τ} {e : Element τ} {limit : Option τ}
    {earlier : String → Prop} (ran : t.RanPast timelineDuration a e limit earlier)
    (same : ∀ f ∈ t.elements, earlier f.id → a f.id = b f.id) (here : a e.id = b e.id) :
    t.RanPast timelineDuration b e limit earlier := by
  refine ⟨ran.before, ran.apart, ?_⟩
  rw [← here, ← endsOf_congr fun f member chosen => congrArg Span.finish (same f member chosen)]
  exact ran.length

/-- A gap in line has run past all that do not rest on it. -/
theorem GapsRan.out {spans : String → Span τ} (ran : t.GapsRan timelineDuration spans) :
    t.GapsRunOut timelineDuration spans := by
  intro e limit gap fills line
  obtain ⟨earlier, before, apart, finish, latest, lasts⟩ := ran e limit gap fills
  have all : t.endsOf spans earlier = t.endsOf spans fun id => ¬ t.RestsOn id e.id :=
    (endsOf_subset apart).antisymm
      (endsOf_subset fun f member free => before f member (line.before free))
  rw [all] at latest
  exact ⟨finish, latest, lasts⟩

end Template

namespace Timeline

/-! ## What is settled -/

/-- An element is settled. -/
def Known (t : Template τ) (p : Progress τ) (id : String) : Prop :=
  ∃ place n, (nodes t)[place]? = some n ∧ n.element.id = id ∧ (p.span? place).isSome = true

theorem known_iff (distinct : t.DistinctIds) {p : Progress τ} {place : Nat} {n : Node τ}
    (inside : (nodes t)[place]? = some n) :
    Known t p n.element.id ↔ (p.span? place).isSome = true := by
  refine ⟨?_, fun settled => ⟨place, n, inside, rfl, settled⟩⟩
  rintro ⟨other, m, there, same, settled⟩
  have found := place?_node distinct there
  rw [same, place?_node distinct inside] at found
  rwa [Option.some.inj found]

theorem known_of_settled {p : Progress τ}
    (settled : ∀ place < (nodes t).length, (p.span? place).isSome = true) {e : Template.Element τ}
    (member : e ∈ t.elements) : Known t p e.id := by
  rw [← map_element_nodes] at member
  obtain ⟨n, inside, rfl⟩ := List.mem_map.1 member
  obtain ⟨place, bound, rfl⟩ := List.mem_iff_getElem.1 inside
  exact ⟨place, _, List.getElem?_eq_getElem bound, rfl, settled place bound⟩

/-- An element that is settled was settled after all it rests on. -/
theorem Known.along (distinct : t.DistinctIds) (anchors : t.AnchorsExist) {p : Progress τ}
    (sound : Progress.Sound (nodes t) p []) {id needed : String} (known : Known t p id)
    (path : t.RestsOn id needed) : Known t p needed := by
  induction path with
  | refl => exact known
  | tail _ depends ih =>
    obtain ⟨place, n, inside, rfl, settled⟩ := ih
    have supplied := sound.supported place settled
    rw [Progress.openNeeds, List.countP_eq_zero] at supplied
    obtain ⟨need, member, m, there, rfl⟩ :=
      exists_need_of_dependsOn distinct anchors (List.mem_of_getElem? inside) depends
    refine ⟨need, m, there, rfl, ?_⟩
    simpa [Option.isSome_iff_ne_none] using supplied need (mem_needsAt.2 ⟨n, inside, member⟩)

theorem isOpenAt_iff (distinct : t.DistinctIds) {place : Nat} {n : Node τ}
    (inside : (nodes t)[place]? = some n) :
    Progress.isOpenAt (nodes t) timelineDuration place = true ↔
      t.OpenGap timelineDuration n.element := by
  have member := List.mem_of_getElem? inside
  simp only [Progress.isOpenAt, inside, Option.any_some, isTrailingGap, Bool.and_eq_true,
    Option.isNone_iff_eq_none, Template.OpenGap, and_assoc]
  refine and_congr_right fun _ => and_congr_left fun _ => ?_
  constructor
  · intro last
    rw [← (nextElement_none_iff member).2 last]
    exact stands_of_mem_nodes member
  · intro stands
    obtain ⟨m, there, same, last⟩ := exists_node_of_stands stands
    obtain rfl := node_unique distinct member there (congrArg _ same.symm)
    exact (nextElement_none_iff member).1 last

variable [Measure τ] {durationOf : Template.Element τ → Except (Failure τ) τ}

/-- When a gap whose end is not given is taken, all that is not settled rests on such a gap that this
one does not need: what waits in the queue is one itself, and the rest waits for something that is not
settled. -/
theorem exists_gap_of_unsettled (distinct : t.DistinctIds) (anchors : t.AnchorsExist)
    {p q : Progress τ} (reached : Reached (nodes t) timelineDuration durationOf p) {place : Nat}
    {n : Node τ} (next : p.next? = some (place, q)) (inside : (nodes t)[place]? = some n)
    (gap : t.OpenGap timelineDuration n.element) {id : String} (grounded : t.Grounded id) :
    ∀ i m, (nodes t)[i]? = some m → m.element.id = id → p.span? i = none →
      ∃ h, t.OpenGap timelineDuration h ∧ t.RestsOn id h.id ∧
        ¬ Relation.TransGen t.DependsOn n.element.id h.id := by
  have sound := reached.sound
  obtain ⟨_, _, ready⟩ := sound.next_ready next
  have putOff := (reached.parted.next next).2 ((isOpenAt_iff distinct inside).2 gap)
  induction grounded with
  | intro id _ ih =>
    rintro i m there rfl unsettled
    have bound := (List.getElem?_eq_some_iff.1 there).1
    by_cases waits : p.openNeeds (nodes t) i = 0
    · have queued := (sound.queued i).2 ⟨bound, unsettled, by
        rw [sound.pending i bound, waits, List.count_nil]⟩
      rw [putOff] at queued
      have gap' := (isOpenAt_iff distinct there).1 (reached.parted.deferred i queued)
      refine ⟨m.element, gap', .refl, fun needs => ?_⟩
      -- what the gap needs is settled, and so is all that rests on
      obtain ⟨needed, depends, path⟩ := Relation.TransGen.head'_iff.1 needs
      obtain ⟨need, member, k, here, rfl⟩ :=
        exists_need_of_dependsOn distinct anchors (List.mem_of_getElem? inside) depends
      have known : Known t p k.element.id :=
        ⟨need, k, here, rfl, ready need (mem_needsAt.2 ⟨n, inside, member⟩)⟩
      have settled := (known_iff distinct there).1 (known.along distinct anchors sound path)
      simp [unsettled] at settled
    · obtain ⟨need, member, missing⟩ := List.countP_pos_iff.1 (Nat.pos_of_ne_zero waits)
      obtain ⟨m', there', member⟩ := mem_needsAt.1 member
      obtain rfl := Option.some.inj (there.symm.trans there')
      have known := closed_nodes t m (List.mem_of_getElem? there) need member
      have depends := dependsOn_of_needs (List.mem_of_getElem? there) member
        (List.getElem?_eq_getElem known)
      obtain ⟨h, gap', rests, apart⟩ := ih _ depends need _ (List.getElem?_eq_getElem known) rfl
        (Option.isNone_iff_eq_none.1 missing)
      exact ⟨h, gap', .head depends rests, apart⟩

/-- **When a gap whose end is not given is taken**, all is settled that can be before it. -/
theorem known_of_before (distinct : t.DistinctIds) (anchors : t.AnchorsExist) (acyclic : t.Acyclic)
    {p q : Progress τ} (reached : Reached (nodes t) timelineDuration durationOf p) {place : Nat}
    {n : Node τ} (next : p.next? = some (place, q)) (inside : (nodes t)[place]? = some n)
    (gap : t.OpenGap timelineDuration n.element) {x : Template.Element τ} (listed : x ∈ t.elements)
    (before : t.Before timelineDuration x.id n.element.id) : Known t p x.id := by
  have grounded := Template.acyclic_iff.1 acyclic x listed
  rw [← map_element_nodes] at listed
  obtain ⟨m, member, rfl⟩ := List.mem_map.1 listed
  obtain ⟨i, bound, rfl⟩ := List.mem_iff_getElem.1 member
  have there := List.getElem?_eq_getElem bound
  rw [known_iff distinct there, Option.isSome_iff_ne_none]
  intro unsettled
  obtain ⟨h, gap', rests, apart⟩ := exists_gap_of_unsettled distinct anchors reached next inside gap
    grounded i _ there rfl unsettled
  exact apart (before h gap' rests)

omit [Measure τ] in
/-- And nothing is that rests on it. -/
theorem apart_of_known (distinct : t.DistinctIds) (anchors : t.AnchorsExist) {p q : Progress τ}
    (sound : Progress.Sound (nodes t) p []) {place : Nat} {n : Node τ}
    (next : p.next? = some (place, q)) (inside : (nodes t)[place]? = some n) {id : String}
    (known : Known t p id) : ¬ t.RestsOn id n.element.id := by
  intro rests
  have settled := (known_iff distinct inside).1 (known.along distinct anchors sound rests)
  simp [(sound.next_ready next).2.1] at settled

/-! ## The timeline runs gaps out -/

/-- The ends of the settled places are those of the settled elements. -/
theorem ends_eq_endsOf (distinct : t.DistinctIds) {p : Progress τ}
    (sound : Progress.Sound (nodes t) p []) :
    p.ends = t.endsOf (spanAt (nodes t) p) (Known t p) := by
  ext x
  constructor
  · rintro ⟨place, span, settled, rfl⟩
    have bound : place < (nodes t).length := by
      rw [← sound.settled_length]
      by_contra outside
      simp [Progress.span?, List.getElem?_eq_none (Nat.le_of_not_lt outside)] at settled
    have there := List.getElem?_eq_getElem bound
    have listed : (nodes t)[place].element ∈ t.elements := by
      rw [← map_element_nodes]
      exact List.mem_map_of_mem (List.getElem_mem bound)
    have isSome : (p.span? place).isSome = true := by rw [settled]; rfl
    have span_eq := spanAt_node distinct there isSome
    rw [settled] at span_eq
    refine ⟨_, listed, (known_iff distinct there).2 isSome, ?_⟩
    rw [← Option.some.inj span_eq]
  · rintro ⟨f, listed, ⟨place, n, inside, same, settled⟩, rfl⟩
    rw [← same]
    exact ⟨place, _, spanAt_node distinct inside settled, rfl⟩

/-- A round leaves the spans of the elements that are settled before it. -/
theorem Known.kept (distinct : t.DistinctIds) {p r : Progress τ} {place : Nat} {span : Span τ}
    (fresh : p.span? place = none)
    (spans : ∀ other, r.span? other = if other = place then some span else p.span? other)
    {id : String} (known : Known t p id) :
    Known t r id ∧ spanAt (nodes t) r id = spanAt (nodes t) p id := by
  obtain ⟨i, n, inside, rfl, settled⟩ := known
  have same : r.span? i = p.span? i := by
    rw [spans, if_neg]
    rintro rfl
    simp [fresh] at settled
  refine ⟨⟨i, n, inside, rfl, by rwa [same]⟩, ?_⟩
  simp only [spanAt, place?_node distinct inside, Option.bind_some, same]

/-- The span that a round settles is that of its element from then on. -/
theorem spanAt_settled (distinct : t.DistinctIds) {r : Progress τ} {place : Nat} {n : Node τ}
    {span : Span τ} (inside : (nodes t)[place]? = some n) (here : r.span? place = some span) :
    spanAt (nodes t) r n.element.id = span := by
  have value := spanAt_node distinct inside (by rw [here]; rfl : (r.span? place).isSome = true)
  exact (Option.some.inj (here.symm.trans value)).symm

omit [Measure τ] in
/-- What is settled after a round was so before, or is the element of the round. -/
theorem Known.before {p r : Progress τ} {place : Nat} {n : Node τ} {span : Span τ}
    (inside : (nodes t)[place]? = some n)
    (spans : ∀ other, r.span? other = if other = place then some span else p.span? other)
    {id : String} (known : Known t r id) : id = n.element.id ∨ Known t p id := by
  obtain ⟨i, m, there, rfl, settled⟩ := known
  rw [spans] at settled
  by_cases same : i = place
  · subst same
    obtain rfl := Option.some.inj (there.symm.trans inside)
    exact .inl rfl
  · rw [if_neg same] at settled
    exact .inr ⟨i, m, there, rfl, settled⟩

/-- The length of a gap whose end is not given when a round settles it. -/
theorem length_openGap {p : Progress τ} {n : Node τ} (member : n ∈ nodes t) {span : Span τ}
    (gap : t.OpenGap timelineDuration n.element) {limit : Option τ}
    (fills : n.element.duration = .fillGap limit)
    (worked : spanOf (nodes t) timelineDuration durationOf p n = .ok span)
    (distinct : t.DistinctIds) :
    span.duration = Measure.capAt limit (Measure.nonneg (p.latestEnd - span.start)) := by
  obtain ⟨m, there, same, last⟩ := exists_node_of_stands gap.2.1
  obtain rfl := node_unique distinct member there (congrArg _ same.symm)
  have lasts := (spanOf_ok worked).2.2 limit fills
  have stops := (nextElement_none_iff there).1 last
  simp only [gapLength, stops, gap.1, Option.getD_none, Except.ok.injEq] at lasts
  exact lasts.symm

/-- A settled gap whose end is not given has run past elements that were all settled before. -/
theorem ran_of_reached [OrderedMeasure τ] (distinct : t.DistinctIds) (anchors : t.AnchorsExist)
    (acyclic : t.Acyclic) {p : Progress τ}
    (reached : Reached (nodes t) timelineDuration durationOf p) :
    ∀ e limit, t.OpenGap timelineDuration e → e.duration = .fillGap limit → Known t p e.id →
      ∃ earlier, (∀ f ∈ t.elements, earlier f.id → Known t p f.id) ∧
        t.RanPast timelineDuration (spanAt (nodes t) p) e limit earlier := by
  induction reached with
  | refl =>
    rintro e limit _ _ ⟨place, n, _, _, settled⟩
    simp [Progress.initial_span?] at settled
  | @tail p r before round ih =>
    have sound := Reached.sound before
    obtain ⟨place, q, n, span, next, inside, fresh, _, worked, spans, _⟩ := round.settles sound
    have kept : ∀ id, Known t p id →
        Known t r id ∧ spanAt (nodes t) r id = spanAt (nodes t) p id :=
      fun _ => Known.kept distinct fresh spans
    intro e limit gap fills known
    by_cases same : e.id = n.element.id
    · obtain ⟨m, there, rfl, _⟩ := exists_node_of_stands gap.2.1
      obtain rfl := node_unique distinct (List.mem_of_getElem? inside) there same.symm
      -- the gap of this round runs past all that is settled before the round
      refine ⟨Known t p, fun f _ settled => (kept _ settled).1, ?_, ?_, p.latestEnd, ?_, ?_⟩
      · intro f listed
        exact known_of_before distinct anchors acyclic before next inside gap listed
      · intro f _
        exact apart_of_known distinct anchors sound next inside
      · rw [Template.endsOf_congr fun f _ settled => congrArg Span.finish (kept _ settled).2,
          ← ends_eq_endsOf distinct sound]
        exact Reached.isLatest before
      · rw [spanAt_settled distinct inside (by rw [spans, if_pos rfl])]
        exact length_openGap there gap fills worked distinct
    · have settled := (known.before inside spans).resolve_left same
      obtain ⟨earlier, others, ran⟩ := ih e limit gap fills settled
      refine ⟨earlier, fun f listed chosen => (kept _ (others f listed chosen)).1, ?_⟩
      exact ran.congr (fun f listed chosen => (kept _ (others f listed chosen)).2.symm)
        (kept _ settled).2.symm

/-- **Gaps run out**: where all is settled, every gap whose end is not given has run to the latest end
of elements that do not rest on it, among them all that can be settled before it. -/
theorem ran_of_settled [OrderedMeasure τ] (distinct : t.DistinctIds) (anchors : t.AnchorsExist)
    (acyclic : t.Acyclic) {p : Progress τ}
    (reached : Reached (nodes t) timelineDuration durationOf p)
    (settled : ∀ place < (nodes t).length, (p.span? place).isSome = true) :
    t.GapsRan timelineDuration (spanAt (nodes t) p) := by
  intro e limit gap fills
  obtain ⟨earlier, _, ran⟩ := ran_of_reached distinct anchors acyclic reached _ limit gap fills
    (known_of_settled settled gap.2.1.mem)
  exact ⟨earlier, ran⟩

/-! ## One gap -/

/-- **How long a last gap lasts**: where one gap alone is last on its track, it runs from its start
to the latest of zero and the ends of the elements that neither are the gap nor depend on it, under
its limit. -/
theorem resolve_lastGap [OrderedMeasure τ] {g : Template.Element τ} {limit : Option τ}
    (gap : t.OpenGap none g) (fills : g.duration = .fillGap limit)
    (only : ∀ h, t.OpenGap none h → h = g) {timeline : Timeline τ}
    (done : resolve t none durationOf = .ok timeline) :
    ∃ spans : String → Span τ, timeline = t.elements.map (fun e => (e.id, spans e.id)) ∧
      ∃ finish, Measure.IsLatest finish (t.endsApart spans g.id) ∧
        (spans g.id).duration =
          Measure.capAt limit (Measure.nonneg (finish - (spans g.id).start)) := by
  have line : t.InLine none g := by
    intro h gapH
    rw [only h gapH]
    exact .inl .refl
  obtain ⟨distinct, anchors, _⟩ := run_of_resolve done
  obtain ⟨p, reached, settled, listed⟩ := settled_run_of_resolve done
  have ran := ran_of_settled distinct anchors (acyclic_of_resolve done) reached settled
  exact ⟨_, listed, ran.out g limit gap fills line⟩

/-- A last picture that stays after the opening, with credits that hang off its start, while a song
plays. -/
def finale : Template Rat :=
  let pictures : Template.Track Rat :=
    { id := "pictures", name := "Pictures", kind := .media, role := .mainVideo
      elements := [still "opening" (.absolute 0),
        { still "last" (.relative "opening" 1 .finish) with duration := .fillGap (some 20) }] }
  let titles : Template.Track Rat :=
    { id := "titles", name := "Titles", kind := .text, role := .title
      elements := [still "credits" (.relative "last" 1 .start)] }
  let music : Template.Track Rat :=
    { id := "music", name := "Music", kind := .audio, role := .backgroundMusic
      elements := [still "song" (.absolute 6)] }
  { Template.new "finale" "Finale" .landscape ⟨0, 0⟩ with tracks := [pictures, titles, music] }

theorem resolve_finale :
    ∃ g timeline, finale.OpenGap none g ∧ g.duration = .fillGap (some 20) ∧
      (∀ h, finale.OpenGap none h → h = g) ∧
      resolve finale none (fun _ => .ok 3) = .ok timeline ∧
      ∃ spans : String → Span Rat, timeline = finale.elements.map (fun e => (e.id, spans e.id)) ∧
        ∃ finish, Measure.IsLatest finish (finale.endsApart spans g.id) ∧
          (spans g.id).duration =
            Measure.capAt (some 20) (Measure.nonneg (finish - (spans g.id).start)) := by
  let last : Template.Element Rat :=
    { still "last" (.relative "opening" 1 .finish) with duration := .fillGap (some 20) }
  have gap : finale.OpenGap none last :=
    ⟨rfl, ⟨_, List.mem_cons_self, [still "opening" (.absolute 0)], [], rfl, rfl⟩, rfl⟩
  have only : ∀ h, finale.OpenGap none h → h = last := by
    rintro h ⟨_, stands, fills⟩
    have listed := Template.mem_successions.2 stands
    simp [Template.successions, finale, Template.pairUp] at listed
    rcases listed with rfl | rfl | rfl
    · rfl
    · cases fills
    · cases fills
  obtain ⟨timeline, done⟩ : ∃ timeline, resolve finale none (fun _ => .ok 3) = .ok timeline :=
    ⟨_, rfl⟩
  exact ⟨last, timeline, gap, rfl, only, done, resolve_lastGap gap rfl only done⟩

end Timeline

end Storyboard
