import Storyboard.Interpretation
import Storyboard.Proofs.Double.Addition
import Storyboard.Proofs.Timeline.Equations

/-!
# Limits on how long elements last

Where the length of an element comes from, and what a limit on it means for the timeline. An element
under a limit lasts no longer than that, so that nothing that is anchored to its end starts later
than it would after the limit. One length is not kept under its limit: that which was recorded for
an element whose placeholder has no value.
-/

namespace Storyboard

open Storyboard.Measure (isNaN zero le capAt nonneg)

variable {τ : Type}

namespace Template

/-- The limit on how long an element may last. -/
def Duration.limit? : Duration τ → Option τ
  | .content limit _ | .fillGap limit => limit
  | _ => none

/-! ## Where lengths come from -/

/-- A file that an element plays: that of its own content, or the input that it is taken from. -/
inductive Element.Plays (inputs : Inputs τ) (e : Element τ) (file : MediaRef τ) : Prop where
  | own {text : Option String} : e.content = .fixed text (some file) → Plays inputs e file
  | input {id : String} {input : Input τ} : e.content.placeholderId? = some id →
      inputs.get? id = some input → input.media? = some file → Plays inputs e file

/-- The content of an element is taken from a placeholder that has no value. -/
def Element.Unfilled (inputs : Inputs τ) (e : Element τ) : Prop :=
  ∃ id, e.content.placeholderId? = some id ∧ inputs.get? id = none

variable [Measure τ]

/-- Where the length of an element comes from that is not worked out from the timeline. -/
inductive Element.Lasts (inputs : Inputs τ) (e : Element τ) : τ → Prop where
  | fixed {length : τ} : e.duration = .fixed length → Lasts inputs e length
  | content {limit hint : Option τ} {file : MediaRef τ} {length : τ} :
      e.duration = .content limit hint → e.Plays inputs file → file.duration = some length →
      Lasts inputs e (capAt limit length)
  | recorded {limit hint : Option τ} : e.duration = .content limit hint → e.Unfilled inputs →
      Lasts inputs e (hint.getD zero)
  | audio {named : Option String} {hint : Option τ} {id : String} {input : Input τ}
      {file : MediaRef τ} {length : τ} : e.duration = .matchAudio named hint →
      inputs.get? id = some input → input.media? = some file → file.duration = some length →
      Lasts inputs e length
  | gap {limit : Option τ} : e.duration = .fillGap limit → Lasts inputs e zero

variable {t : Template τ} {inputs : Inputs τ} {options : FillOptions τ} {e : Element τ}

/-- The length that is found for an element comes from where lengths come from. -/
theorem lasts_of_durationOf {length : τ} (known : durationOf inputs options e = .ok length) :
    e.Lasts inputs length := by
  unfold durationOf at known
  split at known
  · next fixed =>
    cases known
    exact .fixed fixed
  · next limit hint content =>
    dsimp only at known
    split at known
    · next own =>
      split at known
      · next length duration =>
        cases known
        exact .content content (.own own) duration
      · cases known
    · next id shown _ =>
      split at known
      · next absent =>
        cases known
        exact .recorded content ⟨id, shown, absent⟩
      · next input given =>
        split at known
        · next length found =>
          obtain ⟨file, plays, duration⟩ := Option.bind_eq_some_iff.1 found
          cases known
          exact .content content (.input shown given plays) duration
        · cases known
    · cases known
  · next audio =>
    split at known
    · cases known
    · split at known
      · next found =>
        cases known
        obtain ⟨file, media, duration⟩ := Option.bind_eq_some_iff.1 found
        obtain ⟨input, given, plays⟩ := Option.bind_eq_some_iff.1 media
        exact .audio audio given plays duration
      · cases known
  · next gap =>
    cases known
    exact .gap gap

omit [Measure τ] in
/-- An element that plays a file does not wait for a value. -/
theorem Element.Plays.filled {file : MediaRef τ} (plays : e.Plays inputs file) :
    ¬ e.Unfilled inputs := by
  rintro ⟨id, shown, absent⟩
  cases plays with
  | own own => simp [own, Content.placeholderId?] at shown
  | input shown' given _ =>
    obtain rfl := Option.some.inj (shown.symm.trans shown')
    cases absent.symm.trans given

/-- The length of an element with a limit, that is no gap: it was put under the limit, or was
recorded for an element without a value. -/
theorem Element.Lasts.of_limit {length limit : τ} (lasts : e.Lasts inputs length)
    (notGap : e.duration.isFillGap = false) (limited : e.duration.limit? = some limit) :
    (¬ e.Unfilled inputs ∧ ∃ media, length = capAt (some limit) media) ∨
      e.Unfilled inputs ∧ ∃ hint, e.duration = .content (some limit) hint ∧
        length = hint.getD zero := by
  cases lasts with
  | fixed fixed | audio fixed _ _ _ => simp [fixed, Duration.limit?] at limited
  | gap fills => simp [fills, Duration.isFillGap] at notGap
  | @content _ _ file media content plays known =>
    rw [content] at limited
    obtain rfl : _ = some limit := limited
    exact .inl ⟨plays.filled, media, rfl⟩
  | @recorded _ hint content unfilled =>
    rw [content] at limited
    obtain rfl : _ = some limit := limited
    exact .inr ⟨unfilled, hint, content, rfl⟩

end Template

namespace Timeline

open Template (lasts_of_durationOf)

variable [Measure τ] {t : Template τ} {timelineDuration : Option τ}
  {durationOf : Template.Element τ → Except (Failure τ) τ} {p : Progress τ}

/-- The length of a gap is what is left until some time, not less than zero, under its limit. -/
theorem gap_of_settled (distinct : t.DistinctIds)
    (reached : Reached (nodes t) timelineDuration durationOf p)
    (settled : ∀ place < (nodes t).length, (p.span? place).isSome = true)
    {e : Template.Element τ} (member : e ∈ t.elements) {limit : Option τ}
    (fills : e.duration = .fillGap limit) :
    ∃ left, (spanAt (nodes t) p e.id).duration = capAt limit (nonneg left) := by
  obtain ⟨next, stands⟩ := Template.exists_stands member
  obtain ⟨n, _, rfl, _, latest, worked⟩ := worked_of_stands distinct reached settled stands
  have lasts := (spanOf_ok worked).2.2 limit fills
  unfold gapLength at lasts
  dsimp only at lasts
  split at lasts
  · split at lasts
    · exact ⟨_, (Except.ok.inj lasts).symm⟩
    · cases lasts
  · exact ⟨_, (Except.ok.inj lasts).symm⟩

/-- Where the lengths of the elements of a timeline come from: a gap runs until some time, and all
else lasts for the given duration. -/
theorem lengths_of_resolve {timeline : Timeline τ}
    (done : resolve t timelineDuration durationOf = .ok timeline) :
    ∃ spans : String → Span τ, timeline = t.elements.map (fun e => (e.id, spans e.id)) ∧
      t.Solves timelineDuration durationOf spans ∧
      ∀ e ∈ t.elements,
        (∃ limit, e.duration = .fillGap limit ∧
          ∃ left, (spans e.id).duration = capAt limit (nonneg left)) ∨
        e.duration.isFillGap = false ∧ durationOf e = .ok (spans e.id).duration := by
  obtain ⟨distinct, _, _⟩ := run_of_resolve done
  obtain ⟨p, reached, settled, listed⟩ := settled_run_of_resolve done
  have solves := solves_of_settled distinct reached settled
  refine ⟨spanAt (nodes t) p, listed, solves, fun e member => ?_⟩
  cases fills : e.duration with
  | fillGap limit => exact .inl ⟨limit, rfl, gap_of_settled distinct reached settled member fills⟩
  | _ => exact .inr ⟨rfl, solves.known e member (by rw [fills]; rfl)⟩

/-- A recorded length is put under the limit. -/
theorem hintedDuration_of_limit {e : Template.Element τ} {limit : τ}
    (notGap : e.duration.isFillGap = false) (limited : e.duration.limit? = some limit) :
    ∃ recorded, hintedDuration e = capAt (some limit) recorded := by
  unfold hintedDuration
  cases duration : e.duration with
  | content most hint =>
    rw [duration] at limited
    obtain rfl : most = some limit := limited
    exact ⟨_, rfl⟩
  | fillGap => simp [duration, Template.Duration.isFillGap] at notGap
  | _ => simp [duration, Template.Duration.limit?] at limited

/-! ## Limits -/

/-- An element keeps to a limit: it lasts no longer, and nothing that is anchored to its end starts
later than it would after the limit. -/
structure KeepsTo (t : Template τ) (spans : String → Span τ) (e : Template.Element τ)
    (limit : τ) : Prop where
  lasts : le (spans e.id).duration limit = true
  anchored : ∀ f ∈ t.elements, ∀ offset, f.timing = .relative e.id offset .finish →
    isNaN (spans f.id).start = false →
    isNaN (relativeStart (spans e.id).start limit .finish offset) = false →
    le (spans f.id).start (relativeStart (spans e.id).start limit .finish offset) = true

variable [LinearMeasure τ] {spans : String → Span τ} {e : Template.Element τ}

/-- It is enough that the element lasts no longer. -/
theorem keepsTo_of_le (solves : t.Solves timelineDuration durationOf spans) {limit : τ}
    (within : le (spans e.id).duration limit = true) : KeepsTo t spans e limit := by
  refine ⟨within, fun f member offset timing number number' => ?_⟩
  rw [solves.relative f member _ _ _ timing] at number ⊢
  exact relativeStart_mono within number number'

/-- An element whose length was put under a limit keeps to it. -/
theorem keepsTo_of_capAt (solves : t.Solves timelineDuration durationOf spans) {limit length : τ}
    (number : isNaN limit = false) (capped : (spans e.id).duration = capAt (some limit) length) :
    KeepsTo t spans e limit :=
  keepsTo_of_le solves (capped ▸ Measure.cap_le number length)

/-- **Limits bind**: every element with a limit keeps to it, by recorded durations always, and with
inputs unless its length is that of media and the placeholder that it shows has no value, in which
case it lasts for what was recorded. -/
theorem resolve_limited (t : Template τ) :
    (∀ inputs options timeline,
      resolve t options.timelineDuration (Template.durationOf inputs options) = .ok timeline →
      ∃ spans : String → Span τ, timeline = t.elements.map (fun e => (e.id, spans e.id)) ∧
        ∀ e ∈ t.elements, ∀ limit, e.duration.limit? = some limit → isNaN limit = false →
          (e.duration.isFillGap = true ∨ ¬ e.Unfilled inputs → KeepsTo t spans e limit) ∧
          ∀ hint, e.duration = .content (some limit) hint → e.Unfilled inputs →
            (spans e.id).duration = hint.getD zero) ∧
    ∀ timelineDuration timeline, hinted t timelineDuration = .ok timeline →
      ∃ spans : String → Span τ, timeline = t.elements.map (fun e => (e.id, spans e.id)) ∧
        ∀ e ∈ t.elements, ∀ limit, e.duration.limit? = some limit → isNaN limit = false →
          KeepsTo t spans e limit := by
  constructor
  · intro inputs options timeline done
    obtain ⟨spans, listed, solves, lengths⟩ := lengths_of_resolve done
    refine ⟨spans, listed, fun e member limit limited number => ?_⟩
    rcases lengths e member with ⟨_, fills, left, lasts⟩ | ⟨notGap, known⟩
    · rw [fills] at limited
      obtain rfl : _ = some limit := limited
      refine ⟨fun _ => keepsTo_of_capAt solves number lasts, fun hint content => ?_⟩
      rw [fills] at content
      cases content
    · rcases (lasts_of_durationOf known).of_limit notGap limited with
        ⟨filled, media, lasts⟩ | ⟨unfilled, _, content, lasts⟩
      · exact ⟨fun _ => keepsTo_of_capAt solves number lasts,
          fun _ _ absent => (filled absent).elim⟩
      · refine ⟨fun kept => ?_, fun hint content' _ => ?_⟩
        · simp [notGap, unfilled] at kept
        · cases content.symm.trans content'
          exact lasts
  · intro timelineDuration timeline done
    obtain ⟨spans, listed, solves, lengths⟩ := lengths_of_resolve done
    refine ⟨spans, listed, fun e member limit limited number => ?_⟩
    rcases lengths e member with ⟨_, fills, left, lasts⟩ | ⟨notGap, known⟩
    · rw [fills] at limited
      obtain rfl : _ = some limit := limited
      exact keepsTo_of_capAt solves number lasts
    · obtain ⟨recorded, capped⟩ := hintedDuration_of_limit notGap limited
      exact keepsTo_of_capAt solves number ((Except.ok.inj known).symm.trans capped)

end Timeline

/-- A scene of at most five seconds, recorded with ten, and a title at its end. -/
def Template.teaser : Template Float :=
  let scene : Element Float :=
    { id := "scene", name := "Scene", timing := .absolute 0.0
      duration := .content (some 5.0) (some 10.0), content := .placeholder "clip" }
  let title : Element Float :=
    { id := "title", name := "Title", timing := .relative "scene" 0.0 .finish
      duration := .fixed 2.0, content := .fixed (some "Soon") none }
  let pictures : Track Float :=
    { id := "pictures", name := "Pictures", kind := .media, role := .mainVideo
      elements := [scene] }
  let titles : Track Float :=
    { id := "titles", name := "Titles", kind := .text, role := .title, elements := [title] }
  { (Template.new "teaser" "Teaser" .landscape ⟨0, 0⟩ : Template Float) with
    placeholders := [{ id := "clip", name := "Clip", kind := .video }]
    tracks := [pictures, titles] }

namespace Timeline

open Template (teaser)

/-- A clip of eight seconds for the scene. -/
def clip : MediaRef Float :=
  { id := "m1", name := "Clip", metadata := some { duration := some 8.0 } }

theorem resolve_teaser :
    (∃ timeline spans, resolve teaser none
        (Template.durationOf [("clip", .video clip)] {}) = .ok timeline ∧
      timeline = teaser.elements.map (fun e => (e.id, spans e.id)) ∧
      ∃ e ∈ teaser.elements, e.duration.limit? = some 5.0 ∧ isNaN (5.0 : Float) = false ∧
        KeepsTo teaser spans e 5.0) ∧
    ∃ timeline spans, hinted teaser none = .ok timeline ∧
      timeline = teaser.elements.map (fun e => (e.id, spans e.id)) ∧
      ∃ e ∈ teaser.elements, e.duration.limit? = some 5.0 ∧ isNaN (5.0 : Float) = false ∧
        KeepsTo teaser spans e 5.0 := by
  obtain ⟨filled, recorded⟩ := resolve_limited teaser
  have member : teaser.elements[0] ∈ teaser.elements := List.mem_cons_self
  have number : isNaN (5.0 : Float) = false := by decide
  constructor
  · obtain ⟨spans, listed, limits⟩ := filled [("clip", .video clip)] {} _ rfl
    refine ⟨_, spans, rfl, listed, _, member, rfl, number, ?_⟩
    refine (limits _ member _ rfl number).1 (.inr ?_)
    rintro ⟨id, shown, absent⟩
    obtain rfl : "clip" = id := Option.some.inj shown
    cases absent
  · obtain ⟨spans, listed, limits⟩ := recorded none _ rfl
    exact ⟨_, spans, rfl, listed, _, member, rfl, number, limits _ member _ rfl number⟩

/-- Without a clip the scene lasts for the ten seconds that were recorded. -/
theorem not_limited_teaser :
    ¬ ∀ (t : Template Float) inputs options timeline,
      resolve t options.timelineDuration (Template.durationOf inputs options) = .ok timeline →
      ∀ e ∈ t.elements, ∀ limit, e.duration.limit? = some limit → isNaN limit = false →
        ∀ span, timeline.span? e.id = some span → le span.duration limit = true := by
  intro within
  have member : teaser.elements[0] ∈ teaser.elements := List.mem_cons_self
  obtain ⟨timeline, done⟩ : ∃ timeline,
      resolve teaser none (Template.durationOf [] {}) = .ok timeline := ⟨_, rfl⟩
  obtain ⟨spans, listed, _, lengths⟩ := lengths_of_resolve done
  rcases lengths _ member with ⟨_, fills, _⟩ | ⟨_, known⟩
  · cases fills
  · have lasts : 10.0 = (spans "scene").duration := Except.ok.inj known
    have shown : timeline.span? "scene" = some (spans "scene") := by
      rw [listed, span?_map]
      exact if_pos (List.mem_map_of_mem member)
    have short := within teaser [] {} timeline done _ member 5.0 rfl (by decide) _ shown
    rw [← lasts] at short
    revert short
    decide

end Timeline

end Storyboard
