import Storyboard.Proofs.Extraction.Defaults
import Storyboard.Proofs.Extraction.RoundTrip
import Storyboard.Proofs.Validation.WellFormed

/-!
# Extracted templates are well formed

A template that is made from a project passes validation, whatever the project and the options:
every id is a fresh one, elements are placed relative to earlier ones, and placeholders are made
before they are named. Only the durations are taken over as they are, so a report on an extracted
template is about them, if about anything.
-/

namespace Storyboard

open Extraction Source

variable {τ : Type}

namespace Extraction

variable {ctx : Context τ} {s s' s'' : State τ}

/-! ## Ids of tracks -/

/-- A state comes of another one by drawing ids. -/
def State.Draws (s s' : State τ) : Prop := ∃ count, s'.ids = s.ids.skip count

theorem State.Draws.refl : s.Draws s := ⟨0, rfl⟩

theorem State.Draws.trans (first : s.Draws s') (later : s'.Draws s'') : s.Draws s'' := by
  obtain ⟨a, first⟩ := first
  obtain ⟨b, later⟩ := later
  refine ⟨a + b, ?_⟩
  rw [later, first, IdSupply.skip, IdSupply.skip, IdSupply.skip, Nat.add_assoc]

theorem mediaPlaceholder_draws (role : TrackRole) (e : Element τ) (file : MediaFile τ)
    (s : State τ) : s.Draws (mediaPlaceholder ctx role e file s).2 := by
  unfold mediaPlaceholder
  split
  · exact .refl
  · exact ⟨1, rfl⟩

theorem contentFor_draws (role : TrackRole) (e : Element τ) (s : State τ) :
    s.Draws (contentFor ctx role e s).2 := by
  unfold contentFor
  split
  · exact mediaPlaceholder_draws ..
  · split
    · dsimp only
      split
      · exact ⟨1, rfl⟩
      · exact .refl
    · exact .refl

variable [Measure τ]

theorem extractElement_draws (role : TrackRole) (captionStyleId : Option String) (e : Element τ)
    (s : State τ) : s.Draws (extractElement ctx role captionStyleId e s).2 :=
  (contentFor_draws role e s).trans ⟨1, rfl⟩

theorem extractElements_draws (role : TrackRole) (captionStyleId : Option String)
    (es : List (Element τ)) (s : State τ) :
    s.Draws (extractElements ctx role captionStyleId es s).2 := by
  induction es generalizing s with
  | nil => exact .refl
  | cons e rest ih => exact (extractElement_draws role captionStyleId e s).trans (ih _)

theorem addCaptionStyle_draws (role : TrackRole) (t : Track τ) (s : State τ) :
    s.Draws (addCaptionStyle ctx role t s).2 := by
  unfold addCaptionStyle
  split
  · dsimp only
    split
    · exact ⟨1, rfl⟩
    · exact .refl
  · exact .refl

theorem extractTrack_draws (ctx : Context τ) (t : Track τ) (role : TrackRole) (s : State τ) :
    State.Draws { s with ids := s.ids.skip 1 } (extractTrack ctx t role s).2 :=
  (addCaptionStyle_draws role t _).trans (extractElements_draws role _ t.elements _)

/-- The ids of tracks are drawn in order. Those in between go to what is on the tracks. -/
theorem extractTracks_ids (ctx : Context τ) (tracks : List (Track τ × TrackRole)) (s : State τ) :
    ∃ count, List.Sublist ((extractTracks ctx tracks s).1.map (·.id)) (s.ids.take count) := by
  induction tracks generalizing s with
  | nil => exact ⟨0, .slnil⟩
  | cons entry rest ih =>
    obtain ⟨track, role⟩ := entry
    obtain ⟨between, drawn⟩ := extractTrack_draws ctx track role s
    obtain ⟨count, later⟩ := ih (extractTrack ctx track role s).2
    rw [drawn] at later
    refine ⟨1 + (between + count), ?_⟩
    rw [IdSupply.take_add, IdSupply.take_add]
    exact .cons_cons _ (later.trans (List.sublist_append_right _ _))

/-! ## What was extracted -/

namespace Extracted

variable {tracks : List (Track τ)} {t : Template τ} (made : Extracted ctx s tracks t)
include made

/-- An element is placed relative to one that stands before it, if to any. -/
theorem anchored_before {earlier later : List (Template.Element τ)} {e : Template.Element τ}
    (split : t.elements = earlier ++ e :: later) {id : String}
    (anchor : e.timing.anchorId? = some id) : id ∈ earlier.map (·.id) := by
  have member : e ∈ t.elements := split ▸ List.mem_append_right _ List.mem_cons_self
  obtain ⟨before, _⟩ := made.anchored member anchor
  have distinct := made.distinct
  rw [Template.DistinctIds, split, List.map_append, List.map_cons] at distinct
  have apart : e.id ∉ earlier.map (·.id) := fun listed =>
    List.disjoint_of_nodup_append distinct listed List.mem_cons_self
  rw [made.ids, split, List.map_append, List.map_cons, List.idxOf_append_of_notMem apart,
    List.idxOf_cons_self, Nat.add_zero] at before
  by_contra absent
  rw [List.idxOf_append_of_notMem absent] at before
  exact absurd before (Nat.not_lt.2 (Nat.le_add_right _ _))

/-- What elements refer to are the placeholders of their contents, which are there. -/
theorem referenced {id : String} (named : id ∈ Validation.referenced t) :
    (t.placeholder? id).isSome = true := by
  obtain ⟨e, member, listed⟩ := List.mem_flatMap.1 named
  rcases List.mem_append.1 listed with content | duration
  · exact Template.unknownPlaceholders_eq_nil_iff.1 made.known e member id
      (Option.mem_toList.1 content)
  · obtain ⟨x, _, mirrors⟩ := made.source member
    rw [mirrors.duration] at duration
    rcases durationFor_cases ctx.options x (x.file? ctx.library) with
      fixed | ⟨_, _, _, _, _, content⟩
    · simp [fixed] at duration
    · simp [content] at duration

/-- An extracted template is well formed, whatever becomes of its defaults. -/
theorem wellFormed_trim (options : ExtractOptions τ) (version : t.version = Template.currentVersion)
    (rules : t.rules = []) (names : (t.tracks.map (·.id)).Nodup) :
    (t.trim options).WellFormed where
  version := version
  tracks := names
  elements := made.distinct
  placeholders := by
    have distinct := made.distinctPlaceholders
    simpa [Template.DistinctPlaceholders, Template.trim, Function.comp_def] using distinct
  rules := by
    rw [Template.trim, rules]
    exact List.nodup_nil
  operators r member := by
    rw [Template.trim, rules] at member
    cases member
  anchored _ _ _ split _ anchor := made.anchored_before split anchor
  acyclic := by
    -- circles are looked for among the elements, which have not changed
    have none : Validation.circles t = [] := Validation.circles_eq_nil_iff.2 made.acyclic
    exact Validation.circles_eq_nil_iff.1 none
  references id named := by
    rw [Template.placeholder?_trim, Option.isSome_map]
    exact made.referenced named
  constraints p member := by
    obtain ⟨full, listed, rfl⟩ := List.mem_map.1 member
    rw [ExtractOptions.constraints_trim, (made.sound.filled full (made.placeholders ▸ listed)).free]
    rfl
  defaults p member input default := by
    obtain ⟨full, listed, rfl⟩ := List.mem_map.1 member
    obtain ⟨own, value, kind, _⟩ := (made.sound.filled full (made.placeholders ▸ listed)).value
    obtain rfl := Option.some.inj (value.symm.trans (ExtractOptions.default_trim default))
    rw [kind, ExtractOptions.kind_trim]

/-- Where a source lasts a finite time that is not negative, nothing is wrong with the duration. -/
theorem checkElement_errors (options : ExtractOptions τ)
    (lasting : ∀ x ∈ tracks.flatMap (·.elements),
      Measure.isFinite x.duration = true ∧ Measure.lt x.duration Measure.zero = false)
    {e : Template.Element τ} (member : e ∈ t.elements) :
    (Validation.checkElement (t.trim options) e).errors = [] := by
  obtain ⟨x, here, mirrors⟩ := made.source member
  obtain ⟨finite, nonneg⟩ := lasting x here
  have fault : Validation.durationFault? (t.trim options) e = none := by
    unfold Validation.durationFault?
    rcases durationFor_cases ctx.options x (x.file? ctx.library) with
      fixed | ⟨_, _, _, _, _, content⟩
    · simp [mirrors.duration, fixed, finite, nonneg]
    · simp [mirrors.duration, content]
  rw [Validation.checkElement, fault]
  rfl

end Extracted

omit [Measure τ] in
/-- No media file is missing where the library has all that elements name. -/
theorem lostMedia?_eq_none_iff {library : List (MediaFile τ)} {tracks : List (Track τ)} :
    lostMedia? library tracks = none ↔ ∀ track ∈ tracks, ∀ e ∈ track.elements,
      ∀ id, e.mediaId = some id → ∃ file ∈ library, file.id = id := by
  have there : ∀ id, (Source.file? library id).isNone = false ↔ ∃ file ∈ library, file.id = id := by
    intro id
    simp [Source.file?]
  simp only [lostMedia?, List.findSome?_eq_none_iff, List.mem_flatMap, Option.map_eq_none_iff,
    Option.filter_eq_none_iff, Bool.not_eq_true, there]
  exact ⟨fun all track here e inside => all e ⟨track, here, inside⟩,
    fun all e ⟨track, here, inside⟩ => all track here e inside⟩

/-- A template made from a project is one of the current version without rules, and the ids of its
tracks are distinct. -/
theorem start_of_extract {project : Source.Project} {tracks : List (Track τ)}
    {library : List (MediaFile τ)} {options : ExtractOptions τ} {now : Instant}
    {ids left : IdSupply} {t : Template τ} (names : Function.Injective ids.name)
    (done : extract project tracks library options now ids = .ok (t, left)) :
    t.version = Template.currentVersion ∧ t.rules = [] ∧ (t.tracks.map (·.id)).Nodup := by
  obtain ⟨_, _, canvas, _, same⟩ := extract_ok_iff.1 done
  obtain rfl := (Prod.mk.inj same).1
  obtain ⟨count, drawn⟩ := extractTracks_ids ⟨library, canvas, options⟩
    (tracks.zip (assignRoles library canvas options tracks)) ⟨ids.skip 1, [], [], [], []⟩
  exact ⟨rfl, rfl, ((ids.skip 1).nodup_take names count).sublist drawn⟩

end Extraction

/-- **Extracted templates are well formed**: extraction succeeds exactly where there are tracks, a
canvas and all media files; and with fresh ids validation reports nothing about the template except
what is wrong with the durations of the project, and so nothing where these are finite and not
negative. -/
theorem extract_wellFormed [Measure τ] (project : Source.Project) (tracks : List (Source.Track τ))
    (library : List (MediaFile τ)) (options : ExtractOptions τ) (now : Instant) (ids : IdSupply) :
    ((∃ made, extract project tracks library options now ids = .ok made) ↔
      tracks ≠ [] ∧ project.canvas.isSome = true ∧ ∀ track ∈ tracks, ∀ e ∈ track.elements,
        ∀ id, e.mediaId = some id → ∃ file ∈ library, file.id = id) ∧
    (Function.Injective ids.name → ∀ t left,
      extract project tracks library options now ids = .ok (t, left) →
      t.WellFormed ∧ (∀ f ∈ t.validate.errors, f.cause.code = .invalidDuration) ∧
      ((∀ track ∈ tracks, ∀ e ∈ track.elements,
        Measure.isFinite e.duration = true ∧ Measure.lt e.duration Measure.zero = false) →
        t.validate.errors = [])) := by
  constructor
  · simp only [extract_ok_iff, lostMedia?_eq_none_iff, Option.isSome_iff_exists]
    constructor
    · rintro ⟨_, filled, found, canvas, given, _⟩
      exact ⟨filled, ⟨canvas, given⟩, found⟩
    · rintro ⟨filled, ⟨canvas, given⟩, found⟩
      exact ⟨_, filled, found, canvas, given, rfl⟩
  · intro names t left done
    obtain ⟨full, again, rfl⟩ := extract_trim done
    obtain ⟨canvas, s, made⟩ := extracted_of_extract names rfl again
    obtain ⟨version, rules, trackIds⟩ := start_of_extract names again
    have wellFormed := made.wellFormed_trim options version rules trackIds
    refine ⟨wellFormed, wellFormed.code_errors, fun lasting => ?_⟩
    rw [wellFormed.errors_validate, List.flatMap_eq_nil_iff]
    intro e member
    refine made.checkElement_errors options (fun x here => ?_) member
    obtain ⟨track, listed, inside⟩ := List.mem_flatMap.1 here
    exact lasting track listed x inside

/-- A clip shown twice, for a given time, and a caption over the second showing. -/
def showreel (length : Float) : List (Source.Track Float) :=
  let clip (id : String) (start : Float) : Source.Element Float :=
    { id, name := id, kind := .video, start, duration := length, trimStart := 0.0
      mediaId := some "sea" }
  let caption : Source.Element Float :=
    { id := "caption", name := "Caption", kind := .text, start := 4.25, duration := 2.0
      trimStart := 0.0, text := some "The sea", markAsPlaceholder := true }
  [{ id := "video", name := "Video", kind := .media
     elements := [clip "day" 0.0, clip "night" 4.0] },
    { id := "captions", name := "Captions", kind := .text, elements := [caption] }]

def showreelFiles : List (MediaFile Float) := [{ id := "sea", name := "sea.mp4", kind := .video }]

/-- One placeholder for the clip, without its file. -/
def showreelOptions : ExtractOptions Float :=
  { deduplicateMedia := true, includeDefaultValues := false, relativeTimingTolerance := 0.5 }

theorem extract_showreel :
    Function.Injective tally ∧
    (∃ t left, extract trailerProject (showreel 4.0) showreelFiles showreelOptions ⟨0, 0⟩
        ⟨tally, 0⟩ = .ok (t, left) ∧
      t.elements.map (·.timing.anchorId?.isSome) = [false, true, true] ∧
      t.placeholders.map (·.default.isSome) = [false, true] ∧
      t.captionStyles.length = 1 ∧ t.WellFormed ∧ t.validate.errors = []) ∧
    ∃ t left, extract trailerProject (showreel (-1.0)) showreelFiles showreelOptions ⟨0, 0⟩
        ⟨tally, 0⟩ = .ok (t, left) ∧
      t.validate.errors.length = 2 ∧ ∀ f ∈ t.validate.errors, f.cause.code = .invalidDuration := by
  refine ⟨tally_injective, ?_, ?_⟩
  · obtain ⟨t, left, done, anchors, defaults, styles⟩ : ∃ t left, extract trailerProject
        (showreel 4.0) showreelFiles showreelOptions ⟨0, 0⟩ ⟨tally, 0⟩ = .ok (t, left) ∧
        t.elements.map (·.timing.anchorId?.isSome) = [false, true, true] ∧
        t.placeholders.map (·.default.isSome) = [false, true] ∧
        t.captionStyles.length = 1 := ⟨_, _, rfl, rfl, rfl, rfl⟩
    obtain ⟨wellFormed, _, silent⟩ := (extract_wellFormed trailerProject (showreel 4.0)
      showreelFiles showreelOptions ⟨0, 0⟩ ⟨tally, 0⟩).2 tally_injective t left done
    exact ⟨t, left, done, anchors, defaults, styles, wellFormed, silent (by decide)⟩
  · obtain ⟨t, left, done, two⟩ : ∃ t left, extract trailerProject (showreel (-1.0)) showreelFiles
        showreelOptions ⟨0, 0⟩ ⟨tally, 0⟩ = .ok (t, left) ∧ t.validate.errors.length = 2 :=
      ⟨_, _, rfl, rfl⟩
    exact ⟨t, left, done, two, ((extract_wellFormed trailerProject (showreel (-1.0))
      showreelFiles showreelOptions ⟨0, 0⟩ ⟨tally, 0⟩).2 tally_injective t left done).2.1⟩

end Storyboard
