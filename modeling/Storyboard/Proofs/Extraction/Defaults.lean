import Storyboard.Extraction
import Storyboard.Proofs.Steps

/-!
# Templates without their files

Where the files of a project do not become the defaults of their placeholders, nothing else of a
template is different. So what is known of the templates that keep their files is known of all.
-/

namespace Storyboard

open Extraction Source

variable {τ : Type}

namespace ExtractOptions

variable {options : ExtractOptions τ} {p : Placeholder τ}

/-- The options with the files for defaults. -/
def withDefaults (options : ExtractOptions τ) : ExtractOptions τ :=
  { options with includeDefaultValues := true }

/-- What options leave of a placeholder that has its default: texts keep theirs in any case. -/
def trim (options : ExtractOptions τ) (p : Placeholder τ) : Placeholder τ :=
  if options.includeDefaultValues || p.kind == .text then p else { p with default := none }

@[simp] theorem id_trim : (options.trim p).id = p.id := by
  unfold trim
  split <;> rfl

@[simp] theorem kind_trim : (options.trim p).kind = p.kind := by
  unfold trim
  split <;> rfl

@[simp] theorem constraints_trim : (options.trim p).constraints = p.constraints := by
  unfold trim
  split <;> rfl

theorem default_trim {input : Input τ} (default : (options.trim p).default = some input) :
    p.default = some input := by
  unfold trim at default
  split at default
  · exact default
  · cases default

end ExtractOptions

/-- A template as options leave its placeholders. -/
def Template.trim (options : ExtractOptions τ) (t : Template τ) : Template τ :=
  { t with placeholders := t.placeholders.map options.trim }

theorem Template.placeholder?_trim (options : ExtractOptions τ) (t : Template τ) (id : String) :
    (t.trim options).placeholder? id = (t.placeholder? id).map options.trim := by
  simp only [placeholder?, trim, List.find?_map, Function.comp_def, ExtractOptions.id_trim]

namespace Extraction

variable {ctx : Context τ}

/-- The context with the files for defaults. -/
def Context.withDefaults (ctx : Context τ) : Context τ :=
  { ctx with options := ctx.options.withDefaults }

/-- A state as options leave its placeholders. -/
def State.trim (options : ExtractOptions τ) (s : State τ) : State τ :=
  { s with placeholders := s.placeholders.map options.trim }

theorem addPlaceholder_trim {options : ExtractOptions τ} (full : String → Nat → Placeholder τ)
    {make : String → Nat → Placeholder τ}
    (trimmed : ∀ id order, options.trim (full id order) = make id order) (s : State τ) :
    (s.trim options).addPlaceholder make =
      Prod.map id (State.trim options) (s.addPlaceholder full) := by
  simp [State.addPlaceholder, State.trim, trimmed]

theorem mediaPlaceholder_trim (role : TrackRole) (e : Element τ) (file : MediaFile τ)
    (s : State τ) :
    mediaPlaceholder ctx role e file (s.trim ctx.options) =
      Prod.map id (State.trim ctx.options) (mediaPlaceholder ctx.withDefaults role e file s) := by
  have noText : (file.kind.inputKind == InputKind.text) = false := by
    cases file.kind <;> rfl
  have trimmed : ∀ id order, ctx.options.trim
      { id, name := e.name, kind := file.kind.inputKind, order, required := role == .mainVideo
        default := Input.ofMedia file.kind.inputKind file.toRef } =
      { id, name := e.name, kind := file.kind.inputKind, order, required := role == .mainVideo
        default := if ctx.options.includeDefaultValues then
          Input.ofMedia file.kind.inputKind file.toRef else none } := by
    intro id order
    unfold ExtractOptions.trim
    cases ctx.options.includeDefaultValues <;> simp [noText]
  unfold mediaPlaceholder
  dsimp only [Context.withDefaults, ExtractOptions.withDefaults]
  rw [addPlaceholder_trim _ trimmed]
  dsimp only [State.trim]
  split
  · rfl
  · rfl

theorem contentFor_trim (role : TrackRole) (e : Element τ) (s : State τ) :
    contentFor ctx role e (s.trim ctx.options) =
      Prod.map id (State.trim ctx.options) (contentFor ctx.withDefaults role e s) := by
  unfold contentFor
  rw [show ctx.withDefaults.library = ctx.library from rfl,
    show ctx.withDefaults.options.promoteText = ctx.options.promoteText from rfl]
  split
  · rw [mediaPlaceholder_trim]
    rfl
  · split
    · dsimp only
      rw [addPlaceholder_trim (fun id order =>
        { id, name := e.name, kind := .text, order, default := some (.text (e.text.getD "")) })
        (fun _ _ => by simp [ExtractOptions.trim])]
      split <;> rfl
    · rfl

variable [Measure τ]

theorem extractElement_trim (role : TrackRole) (captionStyleId : Option String) (e : Element τ)
    (s : State τ) :
    extractElement ctx role captionStyleId e (s.trim ctx.options) =
      Prod.map id (State.trim ctx.options)
        (extractElement ctx.withDefaults role captionStyleId e s) := by
  unfold extractElement
  rw [contentFor_trim]
  rfl

theorem extractElements_trim (role : TrackRole) (captionStyleId : Option String)
    (es : List (Element τ)) (s : State τ) :
    extractElements ctx role captionStyleId es (s.trim ctx.options) =
      Prod.map id (State.trim ctx.options)
        (extractElements ctx.withDefaults role captionStyleId es s) := by
  induction es generalizing s with
  | nil => rfl
  | cons e rest ih =>
    unfold extractElements
    rw [extractElement_trim]
    dsimp only [Prod.map]
    rw [ih]
    rfl

theorem addCaptionStyle_trim (ctx : Context τ) (role : TrackRole) (t : Track τ) (s : State τ) :
    addCaptionStyle ctx role t (s.trim ctx.options) =
      Prod.map id (State.trim ctx.options) (addCaptionStyle ctx.withDefaults role t s) := by
  unfold addCaptionStyle
  rw [show ctx.withDefaults.canvas = ctx.canvas from rfl,
    show ctx.withDefaults.options.extractCaptionStyles = ctx.options.extractCaptionStyles from rfl]
  split
  · dsimp only [State.trim]
    split <;> rfl
  · rfl

theorem extractTrack_trim (t : Track τ) (role : TrackRole) (s : State τ) :
    extractTrack ctx t role (s.trim ctx.options) =
      Prod.map id (State.trim ctx.options) (extractTrack ctx.withDefaults t role s) := by
  have styled := addCaptionStyle_trim ctx role t { s with ids := s.ids.fresh.2 }
  unfold extractTrack
  dsimp only [State.trim] at styled ⊢
  rw [styled]
  dsimp only [Prod.map]
  rw [extractElements_trim]
  rfl

/-- A run leaves the placeholders as the options do, and is otherwise the run with defaults. -/
theorem extractTracks_trim (ctx : Context τ) (tracks : List (Track τ × TrackRole)) (s : State τ) :
    extractTracks ctx tracks (s.trim ctx.options) =
      Prod.map id (State.trim ctx.options) (extractTracks ctx.withDefaults tracks s) := by
  induction tracks generalizing s with
  | nil => rfl
  | cons entry rest ih =>
    unfold extractTracks
    rw [extractTrack_trim]
    dsimp only [Prod.map]
    rw [ih]
    rfl

/-! ## The template -/

/-- The template made from a project on a canvas, where nothing is missing. -/
def templateOn (canvas : Canvas) (project : Source.Project) (tracks : List (Track τ))
    (library : List (MediaFile τ)) (options : ExtractOptions τ) (now : Instant) (ids : IdSupply) :
    Template τ × IdSupply :=
  let run := extractTracks ⟨library, canvas, options⟩
    (tracks.zip (assignRoles library canvas options tracks)) ⟨ids.skip 1, [], [], [], []⟩
  let started : Template τ := .new ids.next (options.templateName.getD project.name) canvas now
  ({ started with
    description := project.description
    sourceProjectId := some project.id
    tracks := run.1
    captionStyles := run.2.captionStyles
    placeholders := run.2.placeholders }, run.2.ids)

variable {project : Source.Project} {tracks : List (Track τ)} {library : List (MediaFile τ)}
  {options : ExtractOptions τ} {now : Instant} {ids : IdSupply} {made : Template τ × IdSupply}

/-- Extraction succeeds where there are tracks, a canvas and all media files. -/
theorem extract_ok_iff :
    extract project tracks library options now ids = .ok made ↔
      tracks ≠ [] ∧ lostMedia? library tracks = none ∧
        ∃ canvas, project.canvas = some canvas ∧
          templateOn canvas project tracks library options now ids = made := by
  unfold extract
  dsimp only
  split
  · next empty =>
    exact iff_of_false (fun done => by cases done) fun ⟨filled, _⟩ =>
      filled (List.isEmpty_iff.1 empty)
  · next filled =>
    rw [List.isEmpty_iff] at filled
    split
    · next canvas given =>
      split
      · next lost =>
        exact iff_of_false (fun done => by cases done) fun ⟨_, found, _⟩ => by simp [lost] at found
      · next all =>
        have found : lostMedia? library tracks = none :=
          Option.eq_none_iff_forall_ne_some.2 fun lost => all lost.1 lost.2
        rw [pure_ok]
        constructor
        · intro same
          exact ⟨filled, found, canvas, given, same⟩
        · rintro ⟨_, _, _, given', same⟩
          obtain rfl := Option.some.inj (given.symm.trans given')
          exact same
    · next missing =>
      exact iff_of_false (fun done => by cases done) fun ⟨_, _, canvas, given, _⟩ =>
        missing canvas given

/-- **Defaults change nothing else**: a template made with some options is the one made with the
files for defaults, with its placeholders as the options leave them. -/
theorem templateOn_trim (canvas : Canvas) (project : Source.Project) (tracks : List (Track τ))
    (library : List (MediaFile τ)) (options : ExtractOptions τ) (now : Instant) (ids : IdSupply) :
    templateOn canvas project tracks library options now ids =
      Prod.map (Template.trim options) id
        (templateOn canvas project tracks library options.withDefaults now ids) := by
  have run : extractTracks ⟨library, canvas, options⟩
      (tracks.zip (assignRoles library canvas options tracks)) ⟨ids.skip 1, [], [], [], []⟩ =
        Prod.map id (State.trim options) (extractTracks ⟨library, canvas, options.withDefaults⟩
          (tracks.zip (assignRoles library canvas options tracks)) ⟨ids.skip 1, [], [], [], []⟩) :=
    extractTracks_trim ⟨library, canvas, options⟩ _ ⟨ids.skip 1, [], [], [], []⟩
  unfold templateOn
  dsimp only
  rw [run]
  rfl

/-- So is a template whose extraction succeeds. -/
theorem extract_trim {left : IdSupply} {t : Template τ}
    (done : extract project tracks library options now ids = .ok (t, left)) :
    ∃ full : Template τ, extract project tracks library options.withDefaults now ids =
      .ok (full, left) ∧ t = full.trim options := by
  obtain ⟨filled, found, canvas, given, same⟩ := extract_ok_iff.1 done
  rw [templateOn_trim] at same
  obtain ⟨trimmed, drawn⟩ := Prod.mk.inj same
  refine ⟨_, extract_ok_iff.2 ⟨filled, found, canvas, given, ?_⟩, trimmed.symm⟩
  exact Prod.ext rfl drawn

end Extraction

end Storyboard
