import Mathlib.Tactic.Ring
import Storyboard.Proofs.Comparison
import Storyboard.Proofs.Extraction.RoundTrip

/-!
# Drift

A file counts as played in full by an element that is a little shorter or longer than the file. Where
such an element is made to last as long as its file, an element that is placed from its end moves by
the difference, and with it all that is placed from there. So the times of a project come back only
up to a slip, which grows by less than the tolerance with each end that a chain of anchors goes over.
-/

namespace Storyboard

open Extraction Source

variable {τ ω : Type}

/-! ## Slips -/

/-- Whether a duration is that of the content. -/
def Template.Duration.isContent : Template.Duration τ → Bool
  | .content _ _ => true
  | _ => false

/-- How much later than its element of a project an element of a template starts, and over how many
ends of elements with the duration of their content the anchors lead to it. -/
inductive Slips (pairs : List (Source.Element Rat × Template.Element Rat)) :
    Template.Element Rat → Nat → Rat → Prop
  | absolute {e : Template.Element Rat} {start : Rat} (placed : e.timing = .absolute start) :
      Slips pairs e 0 0
  | start {e a : Template.Element Rat} {x : Source.Element Rat} {offset : Rat} {ends : Nat}
      {slip : Rat} (placed : e.timing = .relative a.id offset .start) (anchor : (x, a) ∈ pairs)
      (slips : Slips pairs a ends slip) : Slips pairs e ends slip
  | finish {e a : Template.Element Rat} {x : Source.Element Rat} {offset : Rat} {ends : Nat}
      {slip : Rat} (placed : e.timing = .relative a.id offset .finish) (anchor : (x, a) ∈ pairs)
      (slips : Slips pairs a ends slip) :
      Slips pairs e (ends + a.duration.isContent.toNat)
        (slip + (Timeline.hintedDuration a - x.duration))

/-- Durations that are as long as those of a project up to the tolerance. -/
def NearlyLasts (x : Source.Element Rat) (e : Template.Element Rat) : Prop :=
  |Timeline.hintedDuration e - x.duration| ≤ e.duration.isContent.toNat * fullSourceTolerance

/-- Each end adds less than the tolerance to a slip. -/
theorem Slips.abs_le {pairs : List (Source.Element Rat × Template.Element Rat)}
    (near : ∀ x e, (x, e) ∈ pairs → NearlyLasts x e) {e : Template.Element Rat} {ends : Nat}
    {slip : Rat} (slips : Slips pairs e ends slip) : |slip| ≤ ends * fullSourceTolerance := by
  induction slips with
  | absolute _ => simp
  | start _ _ _ ih => exact ih
  | @finish e a x offset ends slip _ anchor _ ih =>
    have last : NearlyLasts x a := near x a anchor
    calc |slip + (Timeline.hintedDuration a - x.duration)|
        ≤ |slip| + |Timeline.hintedDuration a - x.duration| := abs_add_le _ _
      _ ≤ ends * fullSourceTolerance + a.duration.isContent.toNat * fullSourceTolerance :=
          add_le_add ih last
      _ = (ends + a.duration.isContent.toNat : Nat) * fullSourceTolerance := by
          rw [Nat.cast_add, add_mul]

/-! ## Durations -/

theorem abs_rat (a : Rat) : Measure.abs a = |a| := by
  have zero : (Measure.zero : Rat) = 0 := ofNat_rat 0
  unfold Measure.abs
  rw [zero]
  split
  · next below => exact (abs_of_neg (lt_rat_iff.1 below)).symm
  · next above => exact (abs_of_nonneg (not_lt.1 (mt lt_rat_iff.2 above))).symm

namespace Extraction.Extracted

variable {ctx : Context Rat} {s : State Rat} {tracks : List (Source.Track Rat)} {t : Template Rat}
  (made : Extracted ctx s tracks t)
include made

theorem nearlyLasts (x : Source.Element Rat) (e : Template.Element Rat)
    (pair : (x, e) ∈ t.pairs tracks) : NearlyLasts x e := by
  have duration := (made.mirrors pair).duration
  unfold NearlyLasts
  rcases durationFor_cases ctx.options x (x.file? ctx.library) with
    fixed | ⟨f, d, -, -, near, content⟩
  · rw [fixed] at duration
    simp [Timeline.hintedDuration, duration, Template.Duration.isContent]
  · rw [content] at duration
    rw [abs_rat, lt_rat_iff] at near
    simpa [Timeline.hintedDuration, duration, Template.Duration.isContent, Measure.capAt] using
      near.le

/-- What an element lasts follows from what is noted in the template: its file is at hand. -/
theorem durationOf (options : FillOptions Rat) {e : Template.Element Rat} (member : e ∈ t.elements) :
    Template.durationOf (t.withDefaults []) options e = .ok (Timeline.hintedDuration e) := by
  obtain ⟨x, -, mirrors⟩ := made.source member
  have duration := mirrors.duration
  rcases durationFor_cases ctx.options x (x.file? ctx.library) with
    fixed | ⟨f, d, plays, lasts, -, content⟩
  · rw [fixed] at duration
    rw [Template.durationOf, Timeline.hintedDuration, duration]
  · rw [content] at duration
    have carries := mirrors.content
    generalize shown : e.content = shows at carries
    cases carries with
    | @media file p plays' inside value =>
      obtain rfl : file = f := Option.some.inj (plays'.symm.trans plays)
      have given := (made.value inside).trans value
      have long : file.toRef.duration = some d := lasts
      simp [Template.durationOf, Timeline.hintedDuration, duration, shown, given,
        Template.Content.placeholderId?, file.media?_input, long]
    | promoted plays' => simp [plays] at plays'
    | given plays' => simp [plays] at plays'

/-! ## The times of an extracted template -/

theorem exists_pair {e : Template.Element Rat} (member : e ∈ t.elements) :
    ∃ x, (x, e) ∈ t.pairs tracks := by
  have all : (t.pairs tracks).map Prod.snd = t.elements :=
    List.map_snd_zip made.elements.length_eq.ge
  obtain ⟨⟨x, _⟩, pair, rfl⟩ := List.mem_map.1 (all.symm ▸ member)
  exact ⟨x, pair⟩

/-- The template has a timeline, which solves its timing equations. -/
theorem solved (options : FillOptions Rat) :
    ∃ spans : String → Span Rat,
      Timeline.resolve t none (Template.durationOf (t.withDefaults []) options) =
        .ok (t.elements.map fun e => (e.id, spans e.id)) ∧
      t.Solves none (Template.durationOf (t.withDefaults []) options) spans := by
  rcases Timeline.resolve_acyclic none (Template.durationOf (t.withDefaults []) options)
    made.distinct made.anchors made.acyclic with ⟨timeline, done⟩ | ⟨e, member, _, _, failed, _⟩
  · obtain ⟨p, reached, settled, rfl⟩ := Timeline.settled_run_of_resolve done
    exact ⟨_, done, Timeline.solves_of_settled made.distinct reached settled⟩
  · rw [made.durationOf options member] at failed
    cases failed

theorem lasts {options : FillOptions Rat} {spans : String → Span Rat}
    (solves : t.Solves none (Template.durationOf (t.withDefaults []) options) spans)
    {e : Template.Element Rat} (member : e ∈ t.elements) :
    (spans e.id).duration = Timeline.hintedDuration e := by
  have known := solves.known e member (made.noGaps member)
  rw [made.durationOf options member] at known
  exact (Except.ok.inj known).symm

/-- An element that is noted as an anchor has its times from its element of the project. -/
theorem anchor_times {a : Emitted Rat} (noted : a ∈ s.emitted) {x : Source.Element Rat}
    {e : Template.Element Rat} (pair : (x, e) ∈ t.pairs tracks) (same : e.id = a.id) :
    a.start = x.start ∧ a.duration = x.duration := by
  have spans := made.spans_eq (made.mirrors pair)
  rw [same, made.sound.spans_eq noted] at spans
  exact ⟨congrArg Span.start spans, congrArg Span.duration spans⟩

/-- In a solution every element starts at its time and its slip. -/
theorem slips {options : FillOptions Rat} {spans : String → Span Rat}
    (solves : t.Solves none (Template.durationOf (t.withDefaults []) options) spans)
    {x : Source.Element Rat} {e : Template.Element Rat} (pair : (x, e) ∈ t.pairs tracks) :
    ∃ ends slip, Slips (t.pairs tracks) e ends slip ∧ (spans e.id).start = x.start + slip := by
  -- from what was made first on, since anchors were made before
  induction place : (s.emitted.map (·.id)).idxOf e.id using Nat.strong_induction_on
    generalizing x e with
  | _ place ih =>
  have member : e ∈ t.elements := (List.of_mem_zip pair).2
  obtain ⟨earlier, later, split, timing⟩ := (made.mirrors pair).timing
  rcases timingFor_cases ctx.options earlier x.start with absolute | ⟨a, before, anchor, relative⟩
  · rw [absolute] at timing
    exact ⟨0, 0, .absolute timing, by rw [solves.absolute e member _ timing, add_zero]⟩
  rw [relative] at timing
  obtain ⟨less, listed⟩ := made.anchored member (by rw [timing]; rfl : _ = some a.id)
  obtain ⟨b, inside, same⟩ := List.mem_map.1 listed
  obtain ⟨y, paired⟩ := made.exists_pair inside
  obtain ⟨ends, slip, chain, start⟩ := ih _ (place ▸ same ▸ less) paired rfl
  have noted : a ∈ s.emitted := split ▸ List.mem_append_left _ before
  obtain ⟨began, lasted⟩ := made.anchor_times noted paired same
  have placed := solves.relative e member _ _ _ timing
  rw [← same, start, made.lasts solves inside] at placed
  rw [← same] at timing
  cases anchor with
  | start =>
    refine ⟨ends, slip, .start timing paired chain, ?_⟩
    rw [placed, ← began]
    change a.start + slip + (x.start - a.start) = x.start + slip
    ring
  | finish =>
    refine ⟨_, _, .finish timing paired chain, ?_⟩
    rw [placed, ← began, ← lasted]
    change a.start + slip + Timeline.hintedDuration b + (x.start - (a.start + a.duration)) =
      x.start + (slip + (Timeline.hintedDuration b - a.duration))
    ring

end Extraction.Extracted

/-! ## The project comes back, up to slips -/

/-- An element of a project shows an element at its place and nearly at its time. -/
structure Source.Element.Drifted (library : List (MediaFile Rat))
    (pairs : List (Source.Element Rat × Template.Element Rat)) (x : Source.Element Rat)
    (made : Project.Element Rat) : Prop extends x.Resembled library made where
  times : ∃ e, (x, e) ∈ pairs ∧
    |made.duration - x.duration| ≤ e.duration.isContent.toNat * fullSourceTolerance ∧
    ∃ ends slip, Slips pairs e ends slip ∧ made.start = x.start + slip ∧
      |slip| ≤ ends * fullSourceTolerance

/-- A track of a project shows the elements of a track in their order, nearly at their times. -/
structure Source.Track.Drifted (library : List (MediaFile Rat))
    (pairs : List (Source.Element Rat × Template.Element Rat)) (track : Source.Track Rat)
    (made : Project.Track Rat) : Prop where
  name : made.name = track.name
  kind : made.kind = track.kind
  muted : made.muted = track.muted
  volume : made.volume = track.volume
  elements : List.Forall₂ (Source.Element.Drifted library pairs) track.elements made.elements

namespace Extraction.Extracted

variable {ctx : Context Rat} {s : State Rat} {tracks : List (Source.Track Rat)} {t : Template Rat}

theorem drifted (made : Extracted ctx s tracks t) {options : FillOptions Rat}
    {spans : String → Span Rat}
    (solves : t.Solves none (Template.durationOf (t.withDefaults []) options) spans)
    {x : Source.Element Rat} {f : Filled Rat} (keeps : Keeps ctx.library tracks t spans x f)
    (id : String) :
    x.Drifted ctx.library (t.pairs tracks) (Template.Filled.build t t.canvas.size f id) := by
  have member : f.element ∈ t.elements := (List.of_mem_zip keeps.pair).2
  obtain ⟨ends, slip, chain, start⟩ := made.slips solves keeps.pair
  refine { made.resembled keeps id with
    times := ⟨f.element, keeps.pair, ?_, ends, slip, chain, ?_, chain.abs_le made.nearlyLasts⟩ }
  · rw [Template.Filled.build, keeps.span, made.lasts solves member]
    exact made.nearlyLasts x f.element keeps.pair
  · rw [Template.Filled.build, keeps.span, start]

theorem interpret_drifted (made : Extracted ctx s tracks t)
    (fitting : Source.Fitting ctx.library ctx.options tracks) (c : Collaborators Rat ω)
    (now : Instant) (ids : IdSupply) (w : ω) :
    ∃ p left, t.interpret c [] {} now ids w = (.ok (p, left), w) ∧
      List.Forall₂ (Source.Track.Drifted ctx.library (t.pairs tracks)) tracks p.tracks := by
  obtain ⟨spans, resolved, solves⟩ := made.solved {}
  obtain ⟨p, left, done, related⟩ := made.interpret_timed fitting c resolved now ids w
  refine ⟨p, left, done, related.imp fun track built keeps => ?_⟩
  exact {
    name := keeps.name
    kind := keeps.kind
    muted := keeps.muted
    volume := keeps.volume
    elements := keeps.elements.imp fun x y ⟨f, id, kept, same⟩ =>
      same ▸ made.drifted solves kept id }

end Extraction.Extracted

/-- **There and back with the durations of the files**: in exact numbers, a template made from a
project is filled without any input and shows the project again, every element nearly as long as it
was and every start as late as the ends of files before it make it. -/
theorem extract_interpret_slips (project : Source.Project) (tracks : List (Source.Track Rat))
    (library : List (MediaFile Rat)) (options : ExtractOptions Rat) (now : Instant)
    (ids left : IdSupply) (t : Template Rat) (names : Function.Injective ids.name)
    (defaults : options.includeDefaultValues = true)
    (done : extract project tracks library options now ids = .ok (t, left))
    (fitting : Source.Fitting library options tracks) (c : Collaborators Rat ω) (later : Instant)
    (fresh : IdSupply) (w : ω) :
    ∃ p rest, t.interpret c [] {} later fresh w = (.ok (p, rest), w) ∧
      List.Forall₂ (Source.Track.Drifted library (t.pairs tracks)) tracks p.tracks := by
  obtain ⟨canvas, s, made⟩ := extracted_of_extract names defaults done
  exact made.interpret_drifted fitting c later fresh w

/-- Three clips of two seconds, one after the other, of a file that is a little longer. -/
def tides : List (Source.Track Rat) :=
  let clip (id : String) (start : Rat) : Source.Element Rat :=
    { id, name := id, kind := .video, start, duration := 2, trimStart := 0, mediaId := some "sea" }
  [{ id := "video", name := "Video", kind := .media
     elements := [clip "dawn" 0, clip "noon" 2, clip "dusk" 4] }]

def tideFiles : List (MediaFile Rat) :=
  [{ id := "sea", name := "sea.mp4", kind := .video
     metadata := { duration := some (20009 / 10000) } }]

def tideOptions : ExtractOptions Rat :=
  { deduplicateMedia := true, useContentDurations := true, relativeTimingTolerance := 1 / 2 }

theorem tides_fitting : Source.Fitting tideFiles tideOptions tides :=
  .of_each (by decide) (by decide)

theorem interpret_tides :
    Function.Injective tally ∧ Source.Fitting tideFiles tideOptions tides ∧
      ∃ t left, extract trailerProject tides tideFiles tideOptions ⟨0, 0⟩ ⟨tally, 0⟩ =
          .ok (t, left) ∧
        ∃ p rest, t.interpret .none [] {} ⟨1, 0⟩ ⟨tally, 0⟩ () = (.ok (p, rest), ()) ∧
          List.Forall₂ (Source.Track.Drifted tideFiles (t.pairs tides)) tides p.tracks := by
  obtain ⟨t, left, done⟩ : ∃ t left, extract trailerProject tides tideFiles tideOptions ⟨0, 0⟩
      ⟨tally, 0⟩ = .ok (t, left) := ⟨_, _, rfl⟩
  exact ⟨tally_injective, tides_fitting, t, left, done,
    extract_interpret_slips trailerProject tides tideFiles tideOptions ⟨0, 0⟩ ⟨tally, 0⟩ left t
      tally_injective rfl done tides_fitting .none ⟨1, 0⟩ ⟨tally, 0⟩ ()⟩

/-- When the clips start that are made again of clips. -/
def startsAgain (tracks : List (Source.Track Rat)) (library : List (MediaFile Rat))
    (options : ExtractOptions Rat) : Except (Failure Rat) (List (List Rat)) := do
  let (t, _) ← extract trailerProject tracks library options ⟨0, 0⟩ ⟨tally, 0⟩
  let (p, _) ← (t.interpret .none [] {} ⟨1, 0⟩ ⟨tally, 0⟩ ()).1
  return p.tracks.map fun track => track.elements.map (·.start)

/-- The third clip goes over the ends of two files and starts later than the tolerance allows. -/
theorem not_within_tides :
    Source.Fitting tideFiles tideOptions tides ∧
      tides.map (fun track => track.elements.map (·.start)) = [[0, 2, 4]] ∧
      (startsAgain tides tideFiles tideOptions).toOption =
        some [[0, 20009 / 10000, 40018 / 10000]] ∧
      fullSourceTolerance < |(40018 / 10000 - 4 : Rat)| :=
  ⟨tides_fitting, rfl, by decide +kernel, by decide +kernel⟩

end Storyboard
