import Storyboard.Proofs.Comparison
import Storyboard.Proofs.Double.Order
import Storyboard.Proofs.IdSupply
import Storyboard.Proofs.Interpretation.Preparation
import Storyboard.Proofs.Interpretation.Structural

/-!
# Projects mirror their templates

A project has the tracks of its template, and on each the images of the elements that have content.
The images get new ids, and the project remembers which of them belongs to which element.
-/

namespace Storyboard

/-! ## Looking up by id -/

/-- Of members with distinct keys each is the first with its key. -/
theorem find?_of_nodup {α : Type} {key : α → String} {l : List α} (distinct : (l.map key).Nodup)
    {a : α} (member : a ∈ l) : l.find? (key · == key a) = some a := by
  induction l with
  | nil => cases member
  | cons b rest ih =>
    rw [List.map_cons, List.nodup_cons] at distinct
    rcases List.mem_cons.1 member with rfl | later
    · simp
    · have other : key b ≠ key a := fun same => distinct.1 (same ▸ List.mem_map_of_mem later)
      rw [List.find?_cons_of_neg (by simpa using other), ih distinct.2 later]

namespace Keyed

variable {α : Type} {keys : List String} {values : List α}

/-- A dictionary of keys and their values has each value under its key. -/
theorem get?_ofList_zip (distinct : keys.Nodup) (same : keys.length = values.length) {key : String}
    {value : α} (member : (key, value) ∈ keys.zip values) :
    get? (ofList (keys.zip values)) key = some value := by
  refine get?_foldl_insert ?_ member []
  rwa [List.map_fst_zip same.le]

/-- It has nothing under other keys. -/
theorem isSome_get?_ofList_zip (same : keys.length = values.length) {key : String} :
    (get? (ofList (keys.zip values)) key).isSome = true ↔ key ∈ keys := by
  unfold ofList
  rw [isSome_get?_foldl_insert, List.map_fst_zip same.le]
  simp [get?]

end Keyed

namespace Template

variable {τ ω : Type} {t : Template τ} {inputs : Inputs τ} {c : Collaborators τ ω}

/-! ## Elements with content -/

/-- Whether there is content for an element: there is unless it shows a placeholder without a
value. -/
def Element.hasContent (inputs : Inputs τ) (e : Element τ) : Bool :=
  match e.content with
  | .placeholder id => inputs.has id
  | _ => true

theorem substitute_isSome {track : TrackKind} {e : Element τ} {made : Option (Project.Content τ)}
    (done : substitute c inputs track e = .ok made) : made.isSome = e.hasContent inputs := by
  unfold substitute at done
  unfold Element.hasContent Keyed.has
  generalize e.content = content at done ⊢
  cases content with
  | placeholder id =>
    dsimp only at done ⊢
    cases given : inputs.get? id with
    | none =>
      rw [given] at done
      cases done
      rfl
    | some input =>
      rw [given] at done
      cases input with
      | transcript name =>
        obtain ⟨segments, _, done⟩ := bind_ok_iff.1 done
        cases done
        rfl
      | _ =>
        obtain ⟨content, _, rfl⟩ := map_ok_iff.1 done
        rfl
  | transcript id granularity index =>
    obtain ⟨segments, _, done⟩ := bind_ok_iff.1 done
    split at done
    · cases done
      rfl
    · cases done
  | fixed text source =>
    cases done
    rfl
  | generated generator params =>
    obtain ⟨content, _, rfl⟩ := map_ok_iff.1 done
    rfl

/-! ## Filled tracks -/

/-- An element is kept with its span and its content. -/
structure Filled.Of (timeline : Timeline τ)
    (content : Element τ → Except (Failure τ) (Option (Project.Content τ))) (e : Element τ)
    (f : Filled τ) : Prop where
  element : f.element = e
  span : timeline.span? e.id = some f.span
  content : content e = .ok (some f.content)

variable {timeline : Timeline τ}

/-- The elements of a track that are kept are those with content, in their order. -/
theorem fillTrack_kept {content : Element τ → Except (Failure τ) (Option (Project.Content τ))}
    {keeps : Element τ → Bool} {es : List (Element τ)} {kept : List (Filled τ)}
    (keeping : ∀ e ∈ es, ∀ made, content e = .ok made → made.isSome = keeps e)
    (done : fillTrack timeline content es = .ok kept) :
    List.Forall₂ (Filled.Of timeline content) (es.filter keeps) kept := by
  induction es generalizing kept with
  | nil =>
    cases done
    exact .nil
  | cons e rest ih =>
    unfold fillTrack at done
    split at done
    · next span known =>
      obtain ⟨made, shown, done⟩ := bind_ok_iff.1 done
      obtain ⟨others, filled, done⟩ := bind_ok_iff.1 done
      have later := ih (fun e member => keeping e (List.mem_cons_of_mem _ member)) filled
      have keep := keeping e List.mem_cons_self made shown
      cases made with
      | none =>
        cases done
        rwa [List.filter_cons_of_neg (by simp [← keep])]
      | some content =>
        cases done
        rw [List.filter_cons_of_pos keep.symm]
        exact .cons ⟨rfl, known, shown⟩ later
    · cases done

theorem fillTracks_kept
    {content : TrackKind → Element τ → Except (Failure τ) (Option (Project.Content τ))}
    {keeps : Element τ → Bool} {tracks : List (Track τ)} {filled : List (Track τ × List (Filled τ))}
    (keeping : ∀ kind e made, content kind e = .ok made → made.isSome = keeps e)
    (done : fillTracks timeline content tracks = .ok filled) :
    List.Forall₂ (fun track entry => entry.1 = track ∧
      List.Forall₂ (Filled.Of timeline (content track.kind)) (track.elements.filter keeps) entry.2)
      tracks filled := by
  refine (forall₂_of_mapM done).imp fun track entry made => ?_
  obtain ⟨kept, filled, made⟩ := bind_ok_iff.1 made
  obtain rfl := pure_ok.1 made
  exact ⟨rfl, fillTrack_kept (fun e _ => keeping track.kind e) filled⟩

variable [Measure τ]

omit [Measure τ] in
theorem map_element_kept {content : Element τ → Except (Failure τ) (Option (Project.Content τ))}
    {es : List (Element τ)} {kept : List (Filled τ)}
    (filled : List.Forall₂ (Filled.Of timeline content) es kept) : kept.map (·.element) = es := by
  induction filled with
  | nil => rfl
  | cons first _ ih => rw [List.map_cons, ih, first.element]

omit [Measure τ] in
/-- All elements that are kept, track by track. -/
theorem map_element_flatMap
    {content : TrackKind → Element τ → Except (Failure τ) (Option (Project.Content τ))}
    {keeps : Element τ → Bool} {tracks : List (Track τ)} {filled : List (Track τ × List (Filled τ))}
    (kept : List.Forall₂ (fun track entry => entry.1 = track ∧
      List.Forall₂ (Filled.Of timeline (content track.kind)) (track.elements.filter keeps) entry.2)
      tracks filled) :
    (filled.flatMap (·.2)).map (·.element) = (tracks.flatMap (·.elements)).filter keeps := by
  induction kept with
  | nil => rfl
  | cons first _ ih =>
    rw [List.flatMap_cons, List.flatMap_cons, List.map_append, List.filter_append, ih,
      map_element_kept first.2]

omit [Measure τ] in
/-- The ids of the elements that are kept. -/
theorem map_id_kept
    {content : TrackKind → Element τ → Except (Failure τ) (Option (Project.Content τ))}
    {keeps : Element τ → Bool} {filled : List (Track τ × List (Filled τ))}
    (kept : List.Forall₂ (fun track entry => entry.1 = track ∧
      List.Forall₂ (Filled.Of timeline (content track.kind)) (track.elements.filter keeps) entry.2)
      t.tracks filled) :
    (filled.flatMap (·.2)).map (·.element.id) = (t.elements.filter keeps).map (·.id) := by
  rw [elements, ← map_element_flatMap kept, List.map_map]
  rfl

omit [Measure τ] in
/-- They are distinct where those of all elements are. -/
theorem nodup_kept (distinct : t.DistinctIds)
    {content : TrackKind → Element τ → Except (Failure τ) (Option (Project.Content τ))}
    {keeps : Element τ → Bool} {filled : List (Track τ × List (Filled τ))}
    (kept : List.Forall₂ (fun track entry => entry.1 = track ∧
      List.Forall₂ (Filled.Of timeline (content track.kind)) (track.elements.filter keeps) entry.2)
      t.tracks filled) :
    ((filled.flatMap (·.2)).map (·.element.id)).Nodup := by
  rw [map_id_kept kept]
  exact distinct.sublist (List.filter_sublist.map _)

/-! ## Built tracks -/

/-- A track of a project has the settings of a template track. -/
structure Track.Settings (track : Track τ) (made : Project.Track τ) : Prop where
  name : made.name = track.name
  kind : made.kind = track.kind
  role : made.role = track.role
  muted : made.muted = track.muted
  isMain : made.isMain = track.isMain
  volume : made.volume = track.volume

theorem buildTracks_settings (size : Size) (filled : List (Track τ × List (Filled τ)))
    (ids : IdSupply) :
    List.Forall₂ (fun entry made => entry.1.Settings made ∧
      List.Forall₂ (fun f x => x = Filled.build t size f x.id) entry.2 made.elements)
      filled (t.buildTracks size filled ids).1 := by
  induction filled generalizing ids with
  | nil => exact .nil
  | cons entry rest ih =>
    obtain ⟨track, kept⟩ := entry
    have enough : (ids.take kept.length).length = kept.length := by simp [IdSupply.take]
    refine .cons ⟨⟨rfl, rfl, rfl, rfl, rfl, rfl⟩, ?_⟩ (ih _)
    refine (zipWith_build_forall₂ size kept enough).imp ?_
    rintro f x ⟨id, rfl⟩
    rfl

theorem map_id_zipWith_build (size : Size) (kept : List (Filled τ)) {ids : List String}
    (enough : ids.length = kept.length) :
    (List.zipWith (Filled.build t size) kept ids).map (·.id) = ids := by
  induction kept generalizing ids with
  | nil => exact (List.length_eq_zero_iff.1 enough).symm
  | cons f kept ih =>
    match ids, enough with
    | id :: ids, enough =>
      rw [List.zipWith_cons_cons, List.map_cons, ih (Nat.succ.inj enough)]
      rfl

/-- The ids of all elements are drawn in order. Those in between go to the tracks. -/
theorem buildTracks_ids (size : Size) (filled : List (Track τ × List (Filled τ))) (ids : IdSupply) :
    ∃ count, List.Sublist
      (((t.buildTracks size filled ids).1.flatMap (·.elements)).map (·.id)) (ids.take count) := by
  induction filled generalizing ids with
  | nil => exact ⟨0, .slnil⟩
  | cons entry rest ih =>
    obtain ⟨track, kept⟩ := entry
    obtain ⟨count, later⟩ := ih ((ids.skip kept.length).skip 1)
    have enough : (ids.take kept.length).length = kept.length := by simp [IdSupply.take]
    refine ⟨kept.length + 1 + count, ?_⟩
    rw [IdSupply.take_add, IdSupply.take_succ, buildTracks, List.flatMap_cons, List.map_append,
      map_id_zipWith_build size kept enough]
    exact (List.sublist_append_left _ _).append later

/-! ## Projects -/

variable {canvas : Canvas} {name : String} {now : Instant} {used defaultsApplied : List String}
  {filled : List (Track τ × List (Filled τ))} {ids left : IdSupply} {p : Project τ}

/-- The tracks of a project are built from those that were filled, for its canvas. -/
theorem tracks_build (made : t.build canvas name now used defaultsApplied filled ids = (p, left)) :
    List.Forall₂ (fun entry made => entry.1.Settings made ∧
      List.Forall₂ (fun f x => x = Filled.build t p.canvas.size f x.id) entry.2 made.elements)
      filled p.tracks := by
  cases made
  exact buildTracks_settings canvas.size filled ids

theorem even_build (made : t.build canvas name now used defaultsApplied filled ids = (p, left)) :
    List.Forall₂ (fun entry track => entry.2.length = track.elements.length) filled p.tracks :=
  (tracks_build made).imp fun _ _ built => built.2.length_eq

theorem length_build (made : t.build canvas name now used defaultsApplied filled ids = (p, left)) :
    (filled.flatMap (·.2)).length = p.elements.length := length_flatMap_even (even_build made)

theorem nodup_build (made : t.build canvas name now used defaultsApplied filled ids = (p, left))
    (names : Function.Injective ids.name) : (p.elements.map (·.id)).Nodup := by
  cases made
  obtain ⟨count, drawn⟩ := buildTracks_ids (t := t) canvas.size filled ids
  exact (ids.nodup_take names count).sublist drawn

/-- A project has ids for exactly the elements that were kept. -/
theorem isSome_elementIds_build
    (made : t.build canvas name now used defaultsApplied filled ids = (p, left)) {id : String} :
    (p.provenance.elementIds.get? id).isSome = true ↔
      id ∈ (filled.flatMap (·.2)).map (·.element.id) := by
  have length := length_build made
  cases made
  refine Keyed.isSome_get?_ofList_zip ?_
  rwa [List.length_map, List.length_map]

/-- The id of an element is that of what was made of it. -/
theorem elementIds_build
    (made : t.build canvas name now used defaultsApplied filled ids = (p, left))
    (distinct : ((filled.flatMap (·.2)).map (·.element.id)).Nodup) {f : Filled τ}
    {x : Project.Element τ} (member : (f, x) ∈ (filled.flatMap (·.2)).zip p.elements) :
    p.provenance.elementIds.get? f.element.id = some x.id := by
  have length := length_build made
  cases made
  refine Keyed.get?_ofList_zip distinct ?_ ?_
  · rwa [List.length_map, List.length_map]
  · rw [List.zip_map]
    exact List.mem_map.2 ⟨(f, x), member, rfl⟩

/-- What is found for an element is what was made of it. -/
theorem elementFor?_build
    (made : t.build canvas name now used defaultsApplied filled ids = (p, left))
    (names : Function.Injective ids.name)
    (distinct : ((filled.flatMap (·.2)).map (·.element.id)).Nodup) {f : Filled τ}
    {x : Project.Element τ} (member : (f, x) ∈ (filled.flatMap (·.2)).zip p.elements) :
    p.elementFor? f.element.id = some x := by
  unfold Project.elementFor?
  rw [elementIds_build made distinct member, Option.bind_some]
  exact find?_of_nodup (nodup_build made names) (List.of_mem_zip member).2

/-- Every id that a project has for an element is that of something made. -/
theorem exists_of_elementIds
    (made : t.build canvas name now used defaultsApplied filled ids = (p, left))
    (distinct : ((filled.flatMap (·.2)).map (·.element.id)).Nodup) {a id : String}
    (known : p.provenance.elementIds.get? a = some id) :
    ∃ pair ∈ (filled.flatMap (·.2)).zip p.elements, pair.1.element.id = a ∧ pair.2.id = id := by
  have length := length_build made
  have listed := (isSome_elementIds_build made).1 (Option.isSome_iff_exists.2 ⟨id, known⟩)
  obtain ⟨f, kept, rfl⟩ := List.mem_map.1 listed
  rw [← List.map_fst_zip length.le] at kept
  obtain ⟨⟨f, x⟩, member, rfl⟩ := List.mem_map.1 kept
  refine ⟨(f, x), member, rfl, ?_⟩
  exact Option.some.inj ((elementIds_build made distinct member).symm.trans known)

/-- Different elements have different ids. -/
theorem elementIds_injective
    (made : t.build canvas name now used defaultsApplied filled ids = (p, left))
    (names : Function.Injective ids.name)
    (distinct : ((filled.flatMap (·.2)).map (·.element.id)).Nodup) {a b id : String}
    (first : p.provenance.elementIds.get? a = some id)
    (second : p.provenance.elementIds.get? b = some id) : a = b := by
  have length := length_build made
  obtain ⟨pair, here, rfl, same⟩ := exists_of_elementIds made distinct first
  obtain ⟨other, there, rfl, same'⟩ := exists_of_elementIds made distinct second
  have unique : (((filled.flatMap (·.2)).zip p.elements).map (·.2.id)).Nodup := by
    have seconds := congrArg (List.map (·.id)) (List.map_snd_zip length.ge)
    rw [List.map_map] at seconds
    exact seconds ▸ nodup_build made names
  rw [List.inj_on_of_nodup_map unique here there (same.trans same'.symm)]

end Template

/-! ## The mirror -/

section

variable {τ : Type} [Measure τ]

/-- An element of a project is the image of a template element, with given content. -/
structure Project.Image (p : Project τ) (t : Template τ) (timeline : Timeline τ)
    (content : Template.Element τ → Except (Failure τ) (Option (Project.Content τ)))
    (e : Template.Element τ) (x : Project.Element τ) : Prop where
  /-- It is what is found for the template element. -/
  found : p.elementFor? e.id = some x
  span : timeline.span? e.id = some ⟨x.start, x.duration, x.provisional⟩
  content : content e = .ok (some x.content)
  style : x.style = t.contentStyle e x.content
  position : x.position = e.position.map (·.toPixels p.canvas.size)
  name : x.name = e.name
  captionStyleId : x.captionStyleId = e.captionStyleId
  hidden : x.hidden = e.hidden
  muted : x.muted = e.muted

/-- A project has the tracks of a template, and on them the images of the elements that have
content, with the spans of a timeline. -/
structure Project.Mirrors (p : Project τ) (t : Template τ) (inputs : Inputs τ)
    (timeline : Timeline τ)
    (content : TrackKind → Template.Element τ → Except (Failure τ) (Option (Project.Content τ))) :
    Prop where
  tracks : List.Forall₂ (fun track made => track.Settings made ∧
    List.Forall₂ (p.Image t timeline (content track.kind))
      (track.elements.filter (·.hasContent inputs)) made.elements) t.tracks p.tracks
  /-- There are ids for exactly the elements that have content. -/
  listed : ∀ id, (p.provenance.elementIds.get? id).isSome = true ↔
    ∃ e ∈ t.elements, e.hasContent inputs = true ∧ e.id = id
  injective : ∀ a b id, p.provenance.elementIds.get? a = some id →
    p.provenance.elementIds.get? b = some id → a = b
  duration : Measure.IsLatest p.duration {a | ∃ x ∈ p.elements, x.finish = a}

end

namespace Template

variable {τ ω : Type} [Measure τ] {t : Template τ} {inputs : Inputs τ} {c : Collaborators τ ω}
  {timeline : Timeline τ} {canvas : Canvas} {name : String} {now : Instant}
  {used defaultsApplied : List String} {filled : List (Track τ × List (Filled τ))}
  {ids left : IdSupply} {p : Project τ}

/-- What a template with a timeline is filled with is its mirror. -/
theorem build_mirrors [OrderedMeasure τ]
    {content : TrackKind → Element τ → Except (Failure τ) (Option (Project.Content τ))}
    (distinct : t.DistinctIds) (names : Function.Injective ids.name)
    (keeping : ∀ kind e made, content kind e = .ok made → made.isSome = e.hasContent inputs)
    (done : fillTracks timeline content t.tracks = .ok filled)
    (made : t.build canvas name now used defaultsApplied filled ids = (p, left)) :
    p.Mirrors t inputs timeline content := by
  have kept := fillTracks_kept keeping done
  have unique := nodup_kept distinct kept
  refine ⟨?_, fun id => ?_, fun a b id => elementIds_injective made names unique, ?_⟩
  · refine forall₂_trans ?_ kept (forall₂_mem_zip (tracks_build made))
    rintro track ⟨_, kept⟩ result ⟨rfl, filled⟩ ⟨⟨settings, elements⟩, here⟩
    refine ⟨settings, forall₂_trans ?_ filled (forall₂_mem_zip elements)⟩
    rintro e f x ⟨rfl, span, content⟩ ⟨image, there⟩
    have found := elementFor?_build made names unique (mem_zip_flatMap (even_build made) here there)
    rw [image]
    rw [image] at found
    exact ⟨found, span, content, rfl, rfl, rfl, rfl, rfl, rfl⟩
  · rw [isSome_elementIds_build made, map_id_kept kept, List.mem_map]
    simp only [List.mem_filter, and_assoc]
  · have duration : p.duration = Measure.latest (p.elements.map (·.finish)) := by
      cases made
      rfl
    have latest := Measure.isLatest_latest (p.elements.map (·.finish))
    simpa [duration] using latest

omit [Measure τ] in
/-- What has content with some inputs has it with what they have become. -/
theorem hasContent_prepare {prepared : Prepared τ} {w : ω}
    (done : (t.prepare c inputs w).1 = .ok prepared) (e : Element τ) :
    e.hasContent prepared.inputs = e.hasContent (t.withDefaults inputs) := by
  unfold Element.hasContent
  split
  · exact isSome_prepare done _
  · rfl

/-- **A project mirrors its template**: the tracks and the elements that have content, defaults
included, stand in it as they do in the template, with the spans of the timeline. -/
theorem interpret_mirrors [OrderedMeasure τ] {options : FillOptions τ} {w : ω}
    (names : Function.Injective ids.name)
    (done : (t.interpret c inputs options now ids w).1 = .ok (p, left)) :
    ∃ prepared timeline, (t.prepare c inputs w).1 = .ok prepared ∧
      Timeline.resolve t options.timelineDuration (durationOf prepared.inputs options) =
        .ok timeline ∧
      p.canvas = options.targetCanvas.getD t.canvas ∧
      p.Mirrors t (t.withDefaults inputs) timeline (substitute c prepared.inputs) := by
  obtain ⟨prepared, ready, filled⟩ := interpret_ok_iff.1 done
  obtain ⟨_, _, _, timeline, filled, timed, contents, made⟩ := interpretPrepared_ok_iff.1 filled
  have distinct := (Timeline.run_of_resolve timed).1
  refine ⟨prepared, timeline, ready, timed, ?_, build_mirrors distinct names ?_ contents made⟩
  · cases made
    rfl
  · intro kind e made shown
    rw [substitute_isSome shown, hasContent_prepare ready]

/-- A title, a subtitle that need not be given, and a closing that follows the subtitle. -/
def credits : Template Float :=
  let title : Element Float :=
    { id := "title", name := "Title", timing := .absolute 0.0, duration := .fixed 2.0
      content := .fixed (some "Credits") none, position := some ⟨0.0, 25.0, 0.0, none, none⟩ }
  let subtitle : Element Float :=
    { id := "subtitle", name := "Subtitle", timing := .absolute 1.0, duration := .fixed 2.0
      content := .placeholder "subtitle" }
  let closing : Element Float :=
    { id := "closing", name := "Closing", timing := .relative "subtitle" 0.5 .finish
      duration := .fixed 1.0, content := .fixed (some "The End") none, muted := true }
  let text : Track Float :=
    { id := "text", name := "Text", kind := .text, role := .title
      elements := [title, subtitle, closing] }
  { (Template.new "credits" "Credits" .landscape ⟨0, 0⟩ : Template Float) with
    tracks := [text], placeholders := [{ id := "subtitle", name := "Subtitle", kind := .text }] }

theorem interpret_credits :
    Function.Injective tally ∧ ∃ p left prepared timeline,
      (credits.interpret (ω := Unit) .none [] {} ⟨0, 0⟩ ⟨tally, 0⟩ ()).1 = .ok (p, left) ∧
      (credits.elements.filter (·.hasContent (credits.withDefaults []))).map (·.id) =
        ["title", "closing"] ∧
      p.Mirrors credits (credits.withDefaults []) timeline
        (substitute (ω := Unit) .none (Prepared.inputs prepared)) := by
  have ordered : credits.orderedPlaceholders = credits.placeholders :=
    List.mergeSort_of_pairwise (by decide)
  obtain ⟨p, left, done⟩ : ∃ p left,
      (credits.interpret (ω := Unit) .none [] {} ⟨0, 0⟩ ⟨tally, 0⟩ ()).1 = .ok (p, left) := by
    rw [interpret, prepare, withDefaults, given, defaulted, ordered]
    exact ⟨_, _, rfl⟩
  obtain ⟨prepared, timeline, _, _, _, mirrors⟩ := interpret_mirrors tally_injective done
  refine ⟨tally_injective, p, left, prepared, timeline, done, ?_, mirrors⟩
  rw [withDefaults, defaulted, ordered]
  rfl

end Template

end Storyboard
