import Storyboard.Proofs.Extraction.Timing
import Storyboard.Proofs.Interpretation.Filling

/-!
# There and back

A template that was made from a project, filled with nothing but its own defaults, gives the project
back: its tracks, its elements with their times and places, and what they play and say.
-/

namespace Storyboard

open Extraction Source

variable {τ ω : Type}

/-! ## What is to come back -/

/-- Whether elements of a track can play files of a kind. -/
def TrackKind.admits : TrackKind → MediaKind → Bool
  | .media, .video | .media, .image | .audio, .audio | .audio, .video => true
  | _, _ => false

/-- What an element plays or else says. -/
def Source.Element.shown (library : List (MediaFile τ)) (e : Source.Element τ) :
    Project.Content τ :=
  match e.file? library with
  | some file => .media file.toRef file.kind.inputKind
  | none => .text (e.text.getD "")

/-- Files are played on tracks that can play them, and texts that become placeholders stand on
tracks of texts. -/
structure Source.Fitting (library : List (MediaFile τ)) (options : ExtractOptions τ)
    (tracks : List (Source.Track τ)) : Prop where
  media : ∀ track ∈ tracks, ∀ e ∈ track.elements, ∀ file, e.file? library = some file →
    track.kind.admits file.kind = true
  texts : ∀ track ∈ tracks, ∀ e ∈ track.elements, e.file? library = none → e.kind = .text →
    (options.promoteText || e.markAsPlaceholder) = true → track.kind = .text

theorem Source.Fitting.of_each {library : List (MediaFile τ)} {options : ExtractOptions τ}
    {tracks : List (Source.Track τ)}
    (media : ∀ track ∈ tracks, ∀ e ∈ track.elements,
      (e.file? library).all (fun file => track.kind.admits file.kind) = true)
    (texts : ∀ track ∈ tracks, ∀ e ∈ track.elements, e.kind = .text → track.kind = .text) :
    Source.Fitting library options tracks where
  media := by
    intro track here e inside file plays
    have admits := media track here e inside
    rwa [plays] at admits
  texts track here e inside _ text _ := texts track here e inside text

/-- An element of a project shows an element at its time and place. -/
structure Source.Element.Reproduced (library : List (MediaFile τ)) (e : Source.Element τ)
    (made : Project.Element τ) : Prop where
  name : made.name = e.name
  start : made.start = e.start
  duration : made.duration = e.duration
  hidden : made.hidden = e.hidden
  muted : made.muted = e.muted
  position : made.position = e.position
  content : made.content = e.shown library

/-- A track of a project shows the elements of a track, in their order. -/
structure Source.Track.Reproduced (library : List (MediaFile τ)) (track : Source.Track τ)
    (made : Project.Track τ) : Prop where
  name : made.name = track.name
  kind : made.kind = track.kind
  muted : made.muted = track.muted
  volume : made.volume = track.volume
  elements : List.Forall₂ (Source.Element.Reproduced library) track.elements made.elements

/-! ## Placeholders that fill themselves -/

theorem Input.AtHand.probeInput {input : Input τ} (atHand : input.AtHand)
    (c : Collaborators τ ω) (w : ω) : Template.probeInput c input w = (.ok input, w) := by
  refine Template.probeInput_known (fun file media => ?_) w
  rcases atHand with ⟨text, rfl⟩ | ⟨known, media', metadata⟩
  · cases media
  · rw [media'] at media
    exact Option.some.inj media ▸ metadata

/-- A value that is at hand passes where nothing is asked of it. -/
theorem Input.AtHand.checkInput [Measure τ] {input : Input τ} (atHand : input.AtHand)
    {p : Placeholder τ} (free : p.constraints = {}) :
    (Validation.checkInput p input).errors = [] := by
  have duration : ∀ file, Validation.checkDuration p file = ([], []) := by
    simp [Validation.checkDuration, free]
  have others : ∀ file : MediaRef τ, Validation.checkAspect p.constraints file = none ∧
      Validation.checkFormat p.constraints file = none ∧
      Validation.checkFileSize p.constraints file = none := by
    intro file
    simp [Validation.checkAspect, Validation.checkFormat, Validation.checkFileSize, free,
      Constraints.targetAspectRatio]
  rcases atHand with ⟨text, rfl⟩ | ⟨file, media, _⟩
  · simp [Validation.checkInput, Validation.checkLength, Validation.belowLeast,
      Validation.aboveMost, free]
  · cases input <;> simp [Input.media?] at media <;>
      simp [Validation.checkInput, duration, others]

/-- A file on a track that can play it is content of the track. -/
theorem coerce_input {track : TrackKind} {file : MediaFile τ}
    (admits : track.admits file.kind = true) (id : String) :
    Template.coerce id file.input track = .ok (.media file.toRef file.kind.inputKind) := by
  unfold MediaFile.input
  generalize file.kind = kind at admits
  cases kind <;> cases track <;> first | rfl | cases admits

namespace Extraction.Extracted

variable [Measure τ] {ctx : Context τ} {s : State τ} {tracks : List (Source.Track τ)}
  {t : Template τ} (made : Extracted ctx s tracks t)
include made

theorem distinctPlaceholders : t.DistinctPlaceholders := by
  rw [Template.DistinctPlaceholders, made.placeholders]
  exact made.sound.placeholders

/-- Each placeholder takes its own default. -/
theorem value {p : Placeholder τ} (member : p ∈ s.placeholders) :
    (t.withDefaults []).get? p.id = p.default := by
  rw [Template.get?_withDefaults made.distinctPlaceholders,
    Template.placeholder?_some made.distinctPlaceholders (made.placeholders ▸ member)]
  rfl

/-- Nothing has to be looked up. -/
theorem probe (c : Collaborators τ ω) :
    ∀ entry ∈ t.withDefaults [], ∀ w, Template.probeInput c entry.2 w = (.ok entry.2, w) := by
  intro entry member w
  rcases Keyed.mem_foldl_insert member with added | none
  · obtain ⟨_, p, listed, _, value⟩ := Template.mem_defaulted.1 added
    obtain ⟨input, default, _, atHand⟩ := (made.sound.filled p (made.placeholders ▸ listed)).value
    obtain rfl : input = entry.2 := Option.some.inj (default.symm.trans value)
    exact atHand.probeInput c w
  · cases none

theorem known : Validation.unknownPlaceholders t = [] := by
  rw [Template.unknownPlaceholders_eq_nil_iff]
  intro e member id shown
  obtain ⟨x, _, mirrors⟩ := made.source member
  have listed : ∀ p ∈ s.placeholders, p.id = id → (t.placeholder? id).isSome = true := by
    rintro p inside rfl
    rw [Template.placeholder?_some made.distinctPlaceholders (made.placeholders ▸ inside)]
    rfl
  have carries := mirrors.content
  generalize e.content = content at carries shown
  cases carries with
  | media _ inside _ => exact listed _ inside (Option.some.inj shown)
  | promoted _ _ _ inside _ => exact listed _ inside (Option.some.inj shown)
  | given => cases shown

theorem passes : (Validation.inputs t.placeholders (t.withDefaults [])).errors = [] := by
  rw [Template.errors_inputs_eq_nil_iff, made.placeholders]
  intro p member
  obtain ⟨free, input, default, kind, atHand⟩ := made.sound.filled p member
  unfold Validation.checkFilled
  rw [made.value member, default]
  simp only [Option.some_or, beq_iff_eq, kind, if_true]
  exact atHand.checkInput free

theorem kinds : t.checkKinds (t.withDefaults []) = .ok () := by
  rw [Template.checkKinds_ok_iff, made.placeholders]
  intro p member input value
  obtain ⟨_, own, default, kind, _⟩ := made.sound.filled p member
  rw [made.value member, default] at value
  exact Option.some.inj value ▸ kind

/-- The content that comes in place of a placeholder is what the element shows. -/
theorem substitute (fitting : Source.Fitting ctx.library ctx.options tracks)
    (c : Collaborators τ ω) {track : Source.Track τ} (here : track ∈ tracks) {x : Source.Element τ}
    (inside : x ∈ track.elements) {e : Template.Element τ} (mirrors : Mirrors ctx s x e) :
    Template.substitute c (t.withDefaults []) track.kind e =
      .ok (some (x.shown ctx.library)) := by
  have carries := mirrors.content
  generalize shown : e.content = content at carries
  unfold Source.Element.shown
  cases carries with
  | @media file p plays member value =>
    have spoken : file.input.kind ≠ .transcript := by
      rw [MediaFile.kind_input]
      cases file.kind <;> nofun
    rw [Template.substitute_placeholder shown ((made.value member).trans value) spoken,
      coerce_input (fitting.media track here x inside file plays), plays]
    rfl
  | promoted plays text wanted member value =>
    rw [Template.substitute_placeholder shown ((made.value member).trans value) nofun,
      fitting.texts track here x inside plays text wanted, plays]
    rfl
  | given plays same =>
    rw [Template.substitute, shown, plays, ← same]
    rfl

end Extraction.Extracted

/-! ## The project comes back -/

/-- An element of a project shows an element at its place, whatever its times are. -/
structure Source.Element.Resembled (library : List (MediaFile τ)) (e : Source.Element τ)
    (made : Project.Element τ) : Prop where
  name : made.name = e.name
  hidden : made.hidden = e.hidden
  muted : made.muted = e.muted
  position : made.position = e.position
  content : made.content = e.shown library

/-- The elements of tracks, each with the one at the same place of a template. -/
def Template.pairs (t : Template τ) (tracks : List (Source.Track τ)) :
    List (Source.Element τ × Template.Element τ) :=
  (tracks.flatMap (·.elements)).zip t.elements

namespace Extraction

variable {ctx : Context Rat} {s : State Rat} {tracks : List (Source.Track Rat)} {t : Template Rat}
  {spans : String → Span Rat}

/-- A kept element shows the element that it is made from. -/
structure Keeps (library : List (MediaFile Rat)) (tracks : List (Source.Track Rat))
    (t : Template Rat) (spans : String → Span Rat) (x : Source.Element Rat) (f : Filled Rat) :
    Prop where
  pair : (x, f.element) ∈ t.pairs tracks
  span : f.span = spans f.element.id
  content : f.content = x.shown library

/-- The elements of a track of a project are built from kept ones, which show those of a track. -/
structure TrackKeeps (library : List (MediaFile Rat)) (tracks : List (Source.Track Rat))
    (t : Template Rat) (spans : String → Span Rat) (track : Source.Track Rat)
    (made : Project.Track Rat) : Prop where
  name : made.name = track.name
  kind : made.kind = track.kind
  muted : made.muted = track.muted
  volume : made.volume = track.volume
  elements : List.Forall₂ (fun x built => ∃ f id, Keeps library tracks t spans x f ∧
    built = Template.Filled.build t t.canvas.size f id) track.elements made.elements

namespace Extracted

theorem mirrors {ctx : Context τ} {s : State τ} {tracks : List (Source.Track τ)} {t : Template τ}
    [Measure τ] (made : Extracted ctx s tracks t) {x : Source.Element τ} {e : Template.Element τ}
    (pair : (x, e) ∈ t.pairs tracks) : Mirrors ctx s x e :=
  (List.forall₂_iff_zip.1 made.elements).2 pair

theorem resembled (made : Extracted ctx s tracks t) {x : Source.Element Rat} {f : Filled Rat}
    (keeps : Keeps ctx.library tracks t spans x f) (id : String) :
    x.Resembled ctx.library (Template.Filled.build t t.canvas.size f id) where
  name := (made.mirrors keeps.pair).name
  hidden := (made.mirrors keeps.pair).hidden
  muted := (made.mirrors keeps.pair).muted
  position := by
    have back : ∀ p : PixelPosition Rat, (p.toPercent t.canvas.size).toPixels t.canvas.size = p :=
      fun p => p.toPixels_toPercent t.canvas.size_pos.1 t.canvas.size_pos.2
    simp [Template.Filled.build, (made.mirrors keeps.pair).position, ← made.canvas, back,
      Function.comp_def]
  content := keeps.content

theorem reproduced (made : Extracted ctx s tracks t) {x : Source.Element Rat} {f : Filled Rat}
    (keeps : Keeps ctx.library tracks t s.spans x f) (id : String) :
    x.Reproduced ctx.library (Template.Filled.build t t.canvas.size f id) where
  start := by rw [Template.Filled.build, keeps.span, made.spans_eq (made.mirrors keeps.pair)]
  duration := by rw [Template.Filled.build, keeps.span, made.spans_eq (made.mirrors keeps.pair)]
  __ := made.resembled keeps id

/-- The tracks of the template, filled with what the project shows at the times of a timeline. -/
theorem fillTracks (made : Extracted ctx s tracks t)
    (fitting : Source.Fitting ctx.library ctx.options tracks) (c : Collaborators Rat ω)
    (spans : String → Span Rat) :
    ∃ filled, Template.fillTracks (t.elements.map fun e => (e.id, spans e.id))
        (Template.substitute c (t.withDefaults [])) t.tracks = .ok filled ∧
      List.Forall₂ (fun track entry => TrackMirrors ctx s track entry.1 ∧
        List.Forall₂ (Keeps ctx.library tracks t spans) track.elements entry.2) tracks filled := by
  have even : List.Forall₂ (fun (track : Source.Track Rat) (made : Template.Track Rat) =>
      track.elements.length = made.elements.length) tracks t.tracks :=
    made.tracks.imp fun _ _ mirrors => mirrors.elements.length_eq
  have related : List.Forall₂ (fun track made => track ∈ tracks ∧
      TrackMirrors ctx s track made ∧ (track, made) ∈ tracks.zip t.tracks) tracks t.tracks :=
    (List.forall₂_and_left _ _).2 ⟨fun _ member => member, forall₂_mem_zip made.tracks⟩
  refine mapM_forall₂ related fun track entry ⟨here, mirrors, outer⟩ => ?_
  have inside : List.Forall₂ (fun x e => x ∈ track.elements ∧ Mirrors ctx s x e ∧
      (x, e) ∈ track.elements.zip entry.elements) track.elements entry.elements :=
    (List.forall₂_and_left _ _).2 ⟨fun _ member => member, forall₂_mem_zip mirrors.elements⟩
  have each : ∀ x e, (x ∈ track.elements ∧ Mirrors ctx s x e ∧
      (x, e) ∈ track.elements.zip entry.elements) →
      Timeline.span? (t.elements.map fun e => (e.id, spans e.id)) e.id = some (spans e.id) ∧
        Template.substitute c (t.withDefaults []) entry.kind e =
          .ok (some (x.shown ctx.library)) := by
    rintro x e ⟨member, mirrored, _⟩
    rw [Timeline.span?_map, if_pos (made.listed mirrored), mirrors.kind]
    exact ⟨rfl, made.substitute fitting c here member mirrored⟩
  obtain ⟨kept, done, keeps⟩ := Template.fillTrack_forall₂ inside each
  refine ⟨(entry, kept), by rw [done]; rfl, mirrors, keeps.imp fun x f whole => ?_⟩
  obtain ⟨⟨_, _, inner⟩, span, content⟩ := whole
  exact ⟨mem_zip_flatMap even outer inner, span, content⟩

/-- An extracted template with its own defaults and a timeline gives a project that shows the
project at the times of the timeline. -/
theorem interpret_timed (made : Extracted ctx s tracks t)
    (fitting : Source.Fitting ctx.library ctx.options tracks) (c : Collaborators Rat ω)
    (resolved : Timeline.resolve t none (Template.durationOf (t.withDefaults []) {}) =
      .ok (t.elements.map fun e => (e.id, spans e.id)))
    (now : Instant) (ids : IdSupply) (w : ω) :
    ∃ p left, t.interpret c [] {} now ids w = (.ok (p, left), w) ∧
      List.Forall₂ (TrackKeeps ctx.library tracks t spans) tracks p.tracks := by
  obtain ⟨filled, done, related⟩ := made.fillTracks fitting c spans
  rw [Template.interpret_same (made.probe c)]
  refine ⟨_, _, congrArg (·, w) (Template.interpretPrepared_ok_iff.2
    ⟨made.known, made.passes, made.kinds, _, filled, resolved, done, rfl⟩), ?_⟩
  refine forall₂_trans (fun track entry built mirrored source => ?_) related
    (Template.buildTracks_forall₂ t.canvas.size filled ids)
  obtain ⟨mirrors, keeps⟩ := mirrored
  exact {
    name := source.name.trans mirrors.name
    kind := source.kind.trans mirrors.kind
    muted := source.muted.trans mirrors.muted
    volume := source.volume.trans mirrors.volume
    elements := forall₂_trans (fun x f y kept ⟨id, same⟩ => ⟨f, id, kept, same⟩) keeps
      source.elements }

/-- An extracted template with its own defaults gives back the project. -/
theorem interpret (made : Extracted ctx s tracks t)
    (fixed : ctx.options.useContentDurations = false)
    (fitting : Source.Fitting ctx.library ctx.options tracks) (c : Collaborators Rat ω)
    (now : Instant) (ids : IdSupply) (w : ω) :
    ∃ p left, t.interpret c [] {} now ids w = (.ok (p, left), w) ∧
      List.Forall₂ (Source.Track.Reproduced ctx.library) tracks p.tracks := by
  obtain ⟨p, left, done, related⟩ :=
    made.interpret_timed fitting c (made.resolve fixed none _ {}) now ids w
  refine ⟨p, left, done, related.imp fun track built keeps => ?_⟩
  exact {
    name := keeps.name
    kind := keeps.kind
    muted := keeps.muted
    volume := keeps.volume
    elements := keeps.elements.imp fun x y ⟨f, id, kept, same⟩ => same ▸ made.reproduced kept id }

end Extracted

end Extraction

/-- **There and back**: in exact numbers, a template made from a project, with the files for
defaults and the durations of the project, is filled without any input and shows the project again,
whichever anchors and placeholders were made of it. -/
theorem extract_interpret (project : Source.Project) (tracks : List (Source.Track Rat))
    (library : List (MediaFile Rat)) (options : ExtractOptions Rat) (now : Instant)
    (ids left : IdSupply) (t : Template Rat) (names : Function.Injective ids.name)
    (defaults : options.includeDefaultValues = true) (fixed : options.useContentDurations = false)
    (done : extract project tracks library options now ids = .ok (t, left))
    (fitting : Source.Fitting library options tracks) (c : Collaborators Rat ω) (later : Instant)
    (fresh : IdSupply) (w : ω) :
    ∃ p rest, t.interpret c [] {} later fresh w = (.ok (p, rest), w) ∧
      List.Forall₂ (Source.Track.Reproduced library) tracks p.tracks := by
  obtain ⟨canvas, s, made⟩ := extracted_of_extract names defaults done
  exact made.interpret fixed fitting c later fresh w

/-- A clip shown twice and a title over the second showing. -/
def trailer : List (Source.Track Rat) :=
  let clip (id : String) (start : Rat) : Source.Element Rat :=
    { id, name := id, kind := .video, start, duration := 4, trimStart := 0, mediaId := some "sea" }
  let title : Source.Element Rat :=
    { id := "title", name := "Title", kind := .text, start := 17 / 4, duration := 2, trimStart := 0
      text := some "The sea", position := some ⟨1 / 3, -200, 0, some 640, none⟩ }
  [{ id := "video", name := "Video", kind := .media, elements := [clip "day" 0, clip "night" 4] },
    { id := "text", name := "Text", kind := .text, muted := true, elements := [title] }]

def trailerProject : Source.Project :=
  { id := "trailer", name := "Trailer", canvas := some .landscape }

def trailerFiles : List (MediaFile Rat) := [{ id := "sea", name := "sea.mp4", kind := .video }]

/-- One placeholder for the clip and one for the title, which is placed relative to the clip. -/
def trailerOptions : ExtractOptions Rat :=
  { deduplicateMedia := true, promoteText := true, relativeTimingTolerance := 1 / 2 }

theorem trailer_fitting : Source.Fitting trailerFiles trailerOptions trailer :=
  .of_each (by decide) (by decide)

theorem interpret_trailer :
    Function.Injective tally ∧ Source.Fitting trailerFiles trailerOptions trailer ∧
      ∃ t left, extract trailerProject trailer trailerFiles trailerOptions ⟨0, 0⟩ ⟨tally, 0⟩ =
          .ok (t, left) ∧
        ∃ p rest, t.interpret .none [] {} ⟨1, 0⟩ ⟨tally, 0⟩ () = (.ok (p, rest), ()) ∧
          List.Forall₂ (Source.Track.Reproduced trailerFiles) trailer p.tracks := by
  obtain ⟨t, left, done⟩ : ∃ t left, extract trailerProject trailer trailerFiles trailerOptions
      ⟨0, 0⟩ ⟨tally, 0⟩ = .ok (t, left) := ⟨_, _, rfl⟩
  exact ⟨tally_injective, trailer_fitting, t, left, done,
    extract_interpret trailerProject trailer trailerFiles trailerOptions ⟨0, 0⟩ ⟨tally, 0⟩ left t
      tally_injective rfl rfl done trailer_fitting .none ⟨1, 0⟩ ⟨tally, 0⟩ ()⟩

end Storyboard
