import Storyboard.Proofs.Extraction.Roles
import Storyboard.Proofs.Extraction.WellFormed

/-!
# Media that must be given

A placeholder for media is required where it is made for the main track. Where all uses of a file
share one placeholder it is made at the first of them, so that the track of the first use decides,
whatever the later ones are for.
-/

namespace Storyboard

open Extraction Source

variable {τ : Type}

namespace Extraction

/-! ## Uses of media -/

/-- The use of a file that an element makes on a track of a role. -/
def useOf (library : List (MediaFile τ)) (role : TrackRole) (e : Element τ) :
    List (String × TrackRole) :=
  ((e.file? library).map fun file => (file.id, role)).toList

/-- The uses of files that tracks make, in order. -/
def usesOf (library : List (MediaFile τ)) (tracks : List (Track τ × TrackRole)) :
    List (String × TrackRole) :=
  tracks.flatMap fun entry => entry.1.elements.flatMap (useOf library entry.2)

/-- Whether an element of a track plays a file. -/
def playsFile (library : List (MediaFile τ)) (fileId : String) (t : Track τ) : Bool :=
  t.elements.any fun e => (e.file? library).any (·.id == fileId)

/-- The role of the first track that plays a file. -/
def firstRole? (library : List (MediaFile τ)) (tracks : List (Track τ × TrackRole))
    (fileId : String) : Option TrackRole :=
  (tracks.find? fun entry => playsFile library fileId entry.1).map Prod.snd

theorem lookup_useOf (library : List (MediaFile τ)) (role : TrackRole) (e : Element τ)
    (fileId : String) :
    (useOf library role e).lookup fileId =
      if (e.file? library).any (·.id == fileId) then some role else none := by
  unfold useOf
  cases e.file? library with
  | none => rfl
  | some file =>
    by_cases same : fileId = file.id
    · simp [same]
    · simp [List.lookup_cons, beq_eq_false_iff_ne.2 same, Ne.symm same]

theorem lookup_flatMap_useOf (library : List (MediaFile τ)) (role : TrackRole)
    (es : List (Element τ)) (fileId : String) :
    (es.flatMap (useOf library role)).lookup fileId =
      if es.any fun e => (e.file? library).any (·.id == fileId) then some role else none := by
  induction es with
  | nil => rfl
  | cons e rest ih =>
    rw [List.flatMap_cons, List.lookup_append, lookup_useOf, ih, List.any_cons]
    cases (e.file? library).any (·.id == fileId) <;> simp

/-- The first use of a file is on the first track that plays it. -/
theorem lookup_usesOf (library : List (MediaFile τ)) (tracks : List (Track τ × TrackRole))
    (fileId : String) :
    (usesOf library tracks).lookup fileId = firstRole? library tracks fileId := by
  unfold firstRole?
  induction tracks with
  | nil => rfl
  | cons entry rest ih =>
    rw [usesOf, List.flatMap_cons, List.lookup_append, ← usesOf, lookup_flatMap_useOf, ih,
      List.find?_cons, ← playsFile]
    cases playsFile library fileId entry.1 <;> rfl

/-! ## Placeholders of uses -/

variable {ctx : Context τ} {role : TrackRole} {s s' s'' : State τ}
  {before after later : List (String × TrackRole)}

/-- A placeholder with an id is required for the main track only. -/
def Asks (placeholders : List (Placeholder τ)) (id : String) (role : TrackRole) : Prop :=
  ∃ p ∈ placeholders, p.id = id ∧ p.required = (role == .mainVideo)

/-- Where uses share their placeholders, one is noted for each file that was used, and it asks for the
file as the first use does. -/
structure State.Shares (ctx : Context τ) (uses : List (String × TrackRole)) (s : State τ) :
    Prop where
  used : ctx.options.deduplicateMedia = true → ∀ fileId id,
    s.mediaPlaceholders.get? fileId = some id →
      ∃ first, uses.lookup fileId = some first ∧ Asks s.placeholders id first
  unused : ctx.options.deduplicateMedia = true → ∀ fileId,
    s.mediaPlaceholders.get? fileId = none → uses.lookup fileId = none

/-- A state comes of another one by uses that are added to those before. -/
structure State.Adds (ctx : Context τ) (s s' : State τ) (before after : List (String × TrackRole)) :
    Prop where
  uses : before <+: after
  placeholders : s.placeholders <+: s'.placeholders
  shares : s'.Shares ctx after

/-- The content of an element that plays a file is a placeholder, which asks for the file as the
decisive use does: the first one where uses share their placeholders, else its own. -/
def Serves (ctx : Context τ) (uses : List (String × TrackRole)) (role : TrackRole)
    (placeholders : List (Placeholder τ)) (e : Element τ) (content : Template.Content τ) : Prop :=
  ∀ file, e.file? ctx.library = some file → ∃ id decisive,
    content = .placeholder id ∧ Asks placeholders id decisive ∧
    (ctx.options.deduplicateMedia = true → uses.lookup file.id = some decisive) ∧
    (ctx.options.deduplicateMedia = false → decisive = role)

theorem Asks.mono {placeholders placeholders' : List (Placeholder τ)}
    (kept : placeholders <+: placeholders') {id : String} (asks : Asks placeholders id role) :
    Asks placeholders' id role := by
  obtain ⟨p, member, same⟩ := asks
  exact ⟨p, kept.subset member, same⟩

theorem State.Shares.adds (shares : s.Shares ctx before) : s.Adds ctx s before before :=
  ⟨List.prefix_rfl, List.prefix_rfl, shares⟩

theorem State.Adds.trans (first : s.Adds ctx s' before after)
    (next : s'.Adds ctx s'' after later) : s.Adds ctx s'' before later :=
  ⟨first.uses.trans next.uses, first.placeholders.trans next.placeholders, next.shares⟩

/-- The placeholder of a use stays what it is. -/
theorem Serves.mono (adds : s.Adds ctx s' before after) {e : Element τ}
    {content : Template.Content τ} (serves : Serves ctx before role s.placeholders e content) :
    Serves ctx after role s'.placeholders e content := by
  intro file plays
  obtain ⟨id, decisive, shown, asks, first, own⟩ := serves file plays
  refine ⟨id, decisive, shown, asks.mono adds.placeholders, fun dedupe => ?_, own⟩
  obtain ⟨added, rfl⟩ := adds.uses
  rw [List.lookup_append, first dedupe]
  rfl

/-- More placeholders change nothing for the uses there were. -/
theorem State.Shares.mono (shares : s.Shares ctx before)
    (kept : s.placeholders <+: s'.placeholders)
    (noted : s'.mediaPlaceholders = s.mediaPlaceholders) : s.Adds ctx s' before before := by
  refine ⟨List.prefix_rfl, kept, fun dedupe fileId id here => ?_, fun dedupe fileId none => ?_⟩
  · rw [noted] at here
    obtain ⟨first, use, asks⟩ := shares.used dedupe fileId id here
    exact ⟨first, use, asks.mono kept⟩
  · rw [noted] at none
    exact shares.unused dedupe fileId none

/-- Taking note of the placeholder of a file at its first use. -/
theorem State.Shares.note (shares : s.Shares ctx before) {fileId id : String}
    (kept : s.placeholders <+: s'.placeholders)
    (noted : s'.mediaPlaceholders = Keyed.insert fileId id s.mediaPlaceholders)
    (asks : Asks s'.placeholders id role)
    (lookup : ∀ other, after.lookup other =
      (before.lookup other).or (if other = fileId then some role else none))
    (unused : ctx.options.deduplicateMedia = true → before.lookup fileId = none) :
    s'.Shares ctx after := by
  refine ⟨fun dedupe other id' here => ?_, fun dedupe other none => ?_⟩
  · rw [noted, Keyed.get?_insert] at here
    rw [lookup]
    split at here
    · next same =>
      obtain rfl := Option.some.inj here
      exact ⟨role, by rw [same, unused dedupe, if_pos rfl, Option.none_or], asks⟩
    · next apart =>
      obtain ⟨first, use, asks⟩ := shares.used dedupe other id' here
      exact ⟨first, by rw [use, Option.some_or], asks.mono kept⟩
  · rw [noted, Keyed.get?_insert] at none
    rw [lookup]
    split at none
    · cases none
    · next apart => rw [shares.unused dedupe other none, if_neg apart, Option.none_or]

/-- A new placeholder asks for what it is made for. -/
theorem addPlaceholder_asks (s : State τ) (make : String → Nat → Placeholder τ)
    (id : ∀ id order, (make id order).id = id)
    (required : ∀ id order, (make id order).required = (role == .mainVideo)) :
    Asks (s.addPlaceholder make).2.placeholders (s.addPlaceholder make).1 role :=
  ⟨make s.ids.next s.placeholders.length, List.mem_append_right _ List.mem_cons_self, id _ _,
    required _ _⟩

/-- A use adds to the uses before, and its placeholder is the one of the first use of its file. -/
theorem mediaPlaceholder_serves (shares : s.Shares ctx before) {e : Element τ} {file : MediaFile τ}
    (plays : e.file? ctx.library = some file) :
    s.Adds ctx (mediaPlaceholder ctx role e file s).2 before (before ++ useOf ctx.library role e) ∧
      Serves ctx (before ++ useOf ctx.library role e) role
        (mediaPlaceholder ctx role e file s).2.placeholders e
        (.placeholder (mediaPlaceholder ctx role e file s).1) := by
  have lookup : ∀ fileId, (before ++ useOf ctx.library role e).lookup fileId =
      (before.lookup fileId).or (if fileId = file.id then some role else none) := by
    intro fileId
    rw [List.lookup_append, lookup_useOf, plays]
    simp only [Option.any_some, beq_iff_eq, eq_comm (a := file.id)]
  have same : ∀ file', e.file? ctx.library = some file' → file' = file := fun file' plays' =>
    Option.some.inj (plays'.symm.trans plays)
  unfold mediaPlaceholder
  split
  · next id kept =>
    -- the file was used before, and its placeholder is there
    obtain ⟨noted, dedupe⟩ := Option.filter_eq_some_iff.1 kept
    obtain ⟨first, use, asks⟩ := shares.used dedupe file.id id noted
    have unchanged : ∀ fileId, (before ++ useOf ctx.library role e).lookup fileId =
        before.lookup fileId := by
      intro fileId
      rw [lookup]
      by_cases here : fileId = file.id
      · rw [here, use, Option.some_or]
      · rw [if_neg here, Option.or_none]
    refine ⟨⟨List.prefix_append _ _, List.prefix_rfl, ?_, ?_⟩, fun file' plays' => ?_⟩
    · simpa only [unchanged] using shares.used
    · simpa only [unchanged] using shares.unused
    · obtain rfl := same file' plays'
      exact ⟨id, first, rfl, asks, fun _ => (unchanged _).trans use,
        fun apart => absurd dedupe (by simp [apart])⟩
  · next none =>
    have unused : ctx.options.deduplicateMedia = true → before.lookup file.id = .none := by
      intro dedupe
      refine shares.unused dedupe file.id (Option.eq_none_iff_forall_ne_some.2 fun id noted => ?_)
      simp [noted, dedupe, Option.filter] at none
    have asks : Asks _ _ role := addPlaceholder_asks s (fun id order =>
      { id, name := e.name, kind := file.kind.inputKind, order
        required := role == .mainVideo
        default := if ctx.options.includeDefaultValues then
          Input.ofMedia file.kind.inputKind file.toRef else .none }) (fun _ _ => rfl) fun _ _ => rfl
    refine ⟨⟨List.prefix_append _ _, List.prefix_append _ _,
      shares.note (List.prefix_append _ _) rfl asks lookup unused⟩, fun file' plays' => ?_⟩
    obtain rfl := same file' plays'
    exact ⟨_, role, rfl, asks, fun dedupe => by
      rw [lookup, unused dedupe, if_pos rfl, Option.none_or], fun _ => rfl⟩

/-! ## A run -/

/-- An element without a file uses none. -/
theorem useOf_none {e : Element τ} (plays : e.file? ctx.library = none) :
    useOf ctx.library role e = [] := by
  rw [useOf, plays]
  rfl

theorem contentFor_serves (role : TrackRole) (e : Element τ) (shares : s.Shares ctx before) :
    s.Adds ctx (contentFor ctx role e s).2 before (before ++ useOf ctx.library role e) ∧
      Serves ctx (before ++ useOf ctx.library role e) role (contentFor ctx role e s).2.placeholders
        e (contentFor ctx role e s).1 := by
  unfold contentFor
  split
  · next file plays => exact mediaPlaceholder_serves shares plays
  · next plays =>
    rw [useOf_none plays, List.append_nil]
    refine ⟨?_, fun file plays' => by rw [plays] at plays'; cases plays'⟩
    split
    · dsimp only
      split
      · exact shares.mono (List.prefix_append _ _) rfl
      · exact shares.adds
    · exact shares.adds

variable [Measure τ]

theorem extractElement_serves (role : TrackRole) (captionStyleId : Option String) (e : Element τ)
    (shares : s.Shares ctx before) :
    s.Adds ctx (extractElement ctx role captionStyleId e s).2 before
        (before ++ useOf ctx.library role e) ∧
      Serves ctx (before ++ useOf ctx.library role e) role
        (extractElement ctx role captionStyleId e s).2.placeholders e
        (extractElement ctx role captionStyleId e s).1.content := by
  obtain ⟨adds, serves⟩ := contentFor_serves role e shares
  exact ⟨adds.trans (adds.shares.mono List.prefix_rfl rfl), serves⟩

theorem extractElements_serves (role : TrackRole) (captionStyleId : Option String)
    (es : List (Element τ)) (shares : s.Shares ctx before) :
    s.Adds ctx (extractElements ctx role captionStyleId es s).2 before
        (before ++ es.flatMap (useOf ctx.library role)) ∧
      List.Forall₂ (fun e made => Serves ctx (before ++ es.flatMap (useOf ctx.library role)) role
          (extractElements ctx role captionStyleId es s).2.placeholders e made.content)
        es (extractElements ctx role captionStyleId es s).1 := by
  induction es generalizing s before with
  | nil =>
    rw [List.flatMap_nil, List.append_nil]
    exact ⟨shares.adds, .nil⟩
  | cons e rest ih =>
    obtain ⟨first, serves⟩ := extractElement_serves role captionStyleId e shares
    obtain ⟨next, others⟩ := ih first.shares
    rw [List.flatMap_cons, ← List.append_assoc]
    exact ⟨first.trans next, .cons (serves.mono next) others⟩

theorem addCaptionStyle_adds (role : TrackRole) (t : Track τ) (shares : s.Shares ctx before) :
    s.Adds ctx (addCaptionStyle ctx role t s).2 before before := by
  unfold addCaptionStyle
  split
  · dsimp only
    split
    · exact shares.mono List.prefix_rfl rfl
    · exact shares.adds
  · exact shares.adds

/-- The elements of a track with a role that play a file have placeholders that ask for it. -/
def TrackServes (ctx : Context τ) (uses : List (String × TrackRole))
    (placeholders : List (Placeholder τ)) (entry : Track τ × TrackRole) (made : Template.Track τ) :
    Prop :=
  made.role = entry.2 ∧ List.Forall₂ (fun e planned =>
    Serves ctx uses entry.2 placeholders e planned.content) entry.1.elements made.elements

theorem extractTrack_serves (t : Track τ) (role : TrackRole) (shares : s.Shares ctx before) :
    s.Adds ctx (extractTrack ctx t role s).2 before
        (before ++ t.elements.flatMap (useOf ctx.library role)) ∧
      TrackServes ctx (before ++ t.elements.flatMap (useOf ctx.library role))
        (extractTrack ctx t role s).2.placeholders (t, role) (extractTrack ctx t role s).1 := by
  have named : s.Adds ctx { s with ids := s.ids.skip 1 } before before :=
    shares.mono List.prefix_rfl rfl
  have styled := named.trans (addCaptionStyle_adds role t named.shares)
  obtain ⟨filled, serves⟩ := extractElements_serves role
    (addCaptionStyle ctx role t { s with ids := s.ids.skip 1 }).1 t.elements styled.shares
  exact ⟨styled.trans filled, rfl, serves⟩

/-- **A run** adds the uses of its tracks in order, and serves each of them. -/
theorem extractTracks_serves (ctx : Context τ) (tracks : List (Track τ × TrackRole))
    (shares : s.Shares ctx before) :
    s.Adds ctx (extractTracks ctx tracks s).2 before (before ++ usesOf ctx.library tracks) ∧
      List.Forall₂ (TrackServes ctx (before ++ usesOf ctx.library tracks)
        (extractTracks ctx tracks s).2.placeholders) tracks (extractTracks ctx tracks s).1 := by
  induction tracks generalizing s before with
  | nil =>
    rw [usesOf, List.flatMap_nil, List.append_nil]
    exact ⟨shares.adds, .nil⟩
  | cons entry rest ih =>
    obtain ⟨first, serves⟩ := extractTrack_serves entry.1 entry.2 shares
    obtain ⟨next, others⟩ := ih first.shares
    rw [usesOf, List.flatMap_cons, ← usesOf, ← List.append_assoc]
    exact ⟨first.trans next, .cons ⟨serves.1, serves.2.imp fun _ _ each => each.mono next⟩ others⟩

omit [Measure τ] in
theorem State.shares_start (ctx : Context τ) (ids : IdSupply) :
    State.Shares ctx [] ⟨ids, [], [], [], []⟩ where
  used _ _ _ noted := by cases noted
  unused _ _ _ := rfl

/-! ## The template -/

variable {project : Source.Project} {tracks : List (Track τ)} {library : List (MediaFile τ)}
  {options : ExtractOptions τ} {now : Instant} {ids left : IdSupply} {t : Template τ}

theorem distinctPlaceholders_of_extract (names : Function.Injective ids.name)
    (done : extract project tracks library options now ids = .ok (t, left)) :
    t.DistinctPlaceholders := by
  obtain ⟨full, again, rfl⟩ := extract_trim done
  obtain ⟨canvas, s, made⟩ := extracted_of_extract names rfl again
  have distinct := made.distinctPlaceholders
  simpa [Template.DistinctPlaceholders, Template.trim, Function.comp_def] using distinct

/-- The tracks of an extracted template serve the uses that the tracks of the project make. -/
theorem serves_of_extract
    (done : extract project tracks library options now ids = .ok (t, left)) :
    List.Forall₂ (TrackServes ⟨library, t.canvas, options⟩
        (usesOf library (tracks.zip (t.tracks.map (·.role)))) t.placeholders)
      (tracks.zip (t.tracks.map (·.role))) t.tracks := by
  rw [(roles_of_extract done).1]
  obtain ⟨_, _, canvas, _, same⟩ := extract_ok_iff.1 done
  obtain rfl := (Prod.mk.inj same).1
  exact (extractTracks_serves ⟨library, canvas, options⟩
    (tracks.zip (assignRoles library canvas options tracks)) (State.shares_start _ _)).2

/-- An element that plays a file has a placeholder of its template for content, which is required
where the role that decides about the file is that of the main track. -/
def RequiredBy (t : Template τ) (library : List (MediaFile τ))
    (decisive : String → Option TrackRole) (e : Element τ) (planned : Template.Element τ) : Prop :=
  ∀ file, e.file? library = some file → ∃ p, planned.content = .placeholder p.id ∧
    t.placeholder? p.id = some p ∧ (p.required = true ↔ decisive file.id = some .mainVideo)

omit [Measure τ] in
theorem Serves.requiredBy (distinct : t.DistinctPlaceholders)
    {tracks : List (Track τ × TrackRole)} {e : Element τ} {planned : Template.Element τ}
    (serves : Serves ⟨library, t.canvas, options⟩ (usesOf library tracks) role t.placeholders e
      planned.content) :
    RequiredBy t library
      (fun fileId => if options.deduplicateMedia then firstRole? library tracks fileId
        else some role) e planned := by
  intro file plays
  obtain ⟨_, decisive, shown, ⟨p, member, rfl, required⟩, first, own⟩ := serves file plays
  refine ⟨p, shown, Template.placeholder?_some distinct member, ?_⟩
  rw [required, beq_iff_eq]
  cases dedupe : options.deduplicateMedia with
  | true => simp [← lookup_usesOf, first dedupe]
  | false => simp [own dedupe]

end Extraction

/-- **Which media must be given**: an element that plays a file has a placeholder, and this is
required where the element is on the main track or, where the uses of a file share their placeholder,
where the first track that plays the file is the main one. -/
theorem extract_required [Measure τ] (project : Source.Project) (tracks : List (Source.Track τ))
    (library : List (MediaFile τ)) (options : ExtractOptions τ) (now : Instant)
    (ids left : IdSupply) (t : Template τ) (names : Function.Injective ids.name)
    (done : extract project tracks library options now ids = .ok (t, left)) :
    List.Forall₂ (fun track made => List.Forall₂ (RequiredBy t library fun fileId =>
        if options.deduplicateMedia then
          firstRole? library (tracks.zip (t.tracks.map (·.role))) fileId
        else some made.role) track.elements made.elements) tracks t.tracks := by
  have distinct := distinctPlaceholders_of_extract names done
  have even : tracks.length = (t.tracks.map (·.role)).length := by
    rw [(roles_of_extract done).1, length_assignRoles]
  have served := serves_of_extract done
  generalize entries : tracks.zip (t.tracks.map (·.role)) = zipped at served ⊢
  have firsts : tracks = zipped.map Prod.fst := by
    rw [← entries, List.map_fst_zip (Nat.le_of_eq even)]
  rw [firsts, List.forall₂_map_left_iff]
  refine served.imp fun entry made serves => serves.2.imp fun e planned each => ?_
  rw [serves.1]
  exact each.requiredBy distinct

/-- A clip on two tracks, one of which is marked as the main one. -/
def footage (mainFirst : Bool) : List (Source.Track Float) :=
  let clip (id : String) : Source.Element Float :=
    { id, name := id, kind := .video, start := 0.0, duration := 4.0, trimStart := 0.0
      mediaId := some "sea" }
  [{ id := "one", name := "One", kind := .media, isMain := mainFirst, elements := [clip "near"] },
    { id := "two", name := "Two", kind := .media, isMain := !mainFirst, elements := [clip "far"] }]

theorem extract_footage :
    Function.Injective tally ∧ ∃ t left, extract trailerProject (footage true) showreelFiles
        showreelOptions ⟨0, 0⟩ ⟨tally, 0⟩ = .ok (t, left) ∧
      t.tracks.map (·.role) = [.mainVideo, .bRoll] ∧ t.placeholders.map (·.required) = [true] ∧
      List.Forall₂ (fun track made => List.Forall₂ (RequiredBy t showreelFiles fun fileId =>
          firstRole? showreelFiles ((footage true).zip (t.tracks.map (·.role))) fileId)
        track.elements made.elements) (footage true) t.tracks := by
  obtain ⟨t, left, done, roles, required⟩ : ∃ t left, extract trailerProject (footage true)
      showreelFiles showreelOptions ⟨0, 0⟩ ⟨tally, 0⟩ = .ok (t, left) ∧
      t.tracks.map (·.role) = [.mainVideo, .bRoll] ∧ t.placeholders.map (·.required) = [true] :=
    ⟨_, _, rfl, rfl, rfl⟩
  exact ⟨tally_injective, t, left, done, roles, required, extract_required trailerProject
    (footage true) showreelFiles showreelOptions ⟨0, 0⟩ ⟨tally, 0⟩ left t tally_injective done⟩

/-- On the main track stands an element that plays a file, and its placeholder is not required: it was
made for the track before. -/
theorem not_required_footage :
    ∃ t left, extract trailerProject (footage false) showreelFiles showreelOptions ⟨0, 0⟩
        ⟨tally, 0⟩ = .ok (t, left) ∧
      (∀ track ∈ footage false, ∀ e ∈ track.elements, (e.file? showreelFiles).isSome = true) ∧
      ∃ made ∈ t.tracks, made.role = .mainVideo ∧ ∃ planned ∈ made.elements, ∃ id p,
        planned.content = .placeholder id ∧ t.placeholder? id = some p ∧ p.required = false := by
  refine ⟨_, _, rfl, by decide, _, List.mem_cons_of_mem _ List.mem_cons_self, rfl, _,
    List.mem_cons_self, _, _, rfl, rfl, rfl⟩

end Storyboard
