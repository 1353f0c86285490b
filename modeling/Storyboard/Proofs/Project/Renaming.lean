import Storyboard.Proofs.Interpretation.Mirror

/-!
# Projects under other ids

A project carries ids that were drawn for it: its own, those of its tracks and elements, and
wherever it refers to an element. Building a project does not look at the ids it draws, so that from
another supply the same project is built with other ids in it.
-/

namespace Storyboard

/-! ## Supplies -/

namespace IdSupply

variable {f : String → String} {ids ids' : IdSupply}

/-- What a second supply gives out next is what the first gives out, renamed. -/
def Renames (f : String → String) (ids ids' : IdSupply) : Prop :=
  ∀ i, ids'.name (ids'.used + i) = f (ids.name (ids.used + i))

namespace Renames

theorem next (renames : Renames f ids ids') : ids'.next = f ids.next := renames 0

theorem skip (renames : Renames f ids ids') (count : Nat) :
    Renames f (ids.skip count) (ids'.skip count) := fun i => by
  simpa only [IdSupply.skip, Nat.add_assoc] using renames (count + i)

theorem take (renames : Renames f ids ids') (count : Nat) :
    ids'.take count = (ids.take count).map f := by
  simp only [IdSupply.take, List.map_map]
  exact List.map_congr_left fun i _ => renames i

end Renames

/-- Every supply renames the one whose ids are told apart by their length. -/
theorem renames_tally (ids : IdSupply) :
    Renames (fun id => ids.name (ids.used + id.length)) ⟨tally, 0⟩ ids := fun i => by
  simp [tally]

end IdSupply

namespace Keyed

variable {α β : Type} (f : α → β)

theorem mapValues_insert (key : String) (value : α) (entries : Keyed α) :
    mapValues f (insert key value entries) = insert key (f value) (mapValues f entries) := by
  induction entries with
  | nil => rfl
  | cons entry rest ih =>
    obtain ⟨k, v⟩ := entry
    change mapValues f (insert key value ((k, v) :: rest)) =
      insert key (f value) ((k, f v) :: mapValues f rest)
    unfold insert
    split
    · rfl
    · split
      · rfl
      · exact congrArg (_ :: ·) ih

theorem mapValues_foldl_insert (added : List (String × α)) (kept : Keyed α) :
    mapValues f (added.foldl (fun kept entry => insert entry.1 entry.2 kept) kept) =
      (mapValues f added).foldl (fun kept entry => insert entry.1 entry.2 kept)
        (mapValues f kept) := by
  induction added generalizing kept with
  | nil => rfl
  | cons entry rest ih =>
    rw [List.foldl_cons, ih, mapValues_insert]
    rfl

theorem mapValues_ofList (entries : List (String × α)) :
    mapValues f (ofList entries) = ofList (mapValues f entries) :=
  mapValues_foldl_insert f entries []

end Keyed

/-! ## Projects -/

/-- The effect with the element renamed. -/
def Effect.rename (f : String → String) (e : Effect) : Effect :=
  { e with elementId := f e.elementId }

namespace Project

variable {τ : Type} {f g : String → String}

/-- The element under another id. -/
def Element.rename (f : String → String) (e : Element τ) : Element τ := { e with id := f e.id }

/-- The track with its elements, under other ids. -/
def Track.rename (f : String → String) (t : Track τ) : Track τ :=
  { t with id := f t.id, elements := t.elements.map (·.rename f) }

/-- The project under other ids, and its references to its elements with it. -/
def rename (f : String → String) (p : Project τ) : Project τ :=
  { p with
    id := f p.id
    tracks := p.tracks.map (·.rename f)
    provenance := { p.provenance with
      elementIds := p.provenance.elementIds.mapValues f
      effects := p.provenance.effects.map (·.rename f) } }

/-- The project as made at another time. -/
def madeAt (now : Instant) (p : Project τ) : Project τ :=
  { p with provenance := { p.provenance with generatedAt := now } }

/-- The ids drawn for a project: its own, and those of its tracks and of their elements. -/
def freshIds (p : Project τ) : List String :=
  p.id :: p.tracks.flatMap fun t => t.id :: t.elements.map (·.id)

/-- A project refers to elements of its own. -/
structure RefersToOwn (p : Project τ) : Prop where
  elementIds : ∀ entry ∈ p.provenance.elementIds, entry.2 ∈ p.elements.map (·.id)
  effects : ∀ f ∈ p.provenance.effects, f.elementId ∈ p.elements.map (·.id)

theorem freshIds_rename (p : Project τ) : (p.rename f).freshIds = p.freshIds.map f := by
  simp [freshIds, rename, Track.rename, Element.rename, List.flatMap_map, List.map_flatMap,
    Function.comp_def]

theorem rename_rename (p : Project τ) : (p.rename f).rename g = p.rename (g ∘ f) := by
  simp [rename, Track.rename, Element.rename, Effect.rename, Keyed.mapValues, Function.comp_def]

theorem mem_freshIds {p : Project τ} {id : String} (member : id ∈ p.elements.map (·.id)) :
    id ∈ p.freshIds := by
  obtain ⟨e, inside, rfl⟩ := List.mem_map.1 member
  obtain ⟨t, here, inside⟩ := List.mem_flatMap.1 inside
  refine List.mem_cons_of_mem _ (List.mem_flatMap.2 ⟨t, here, List.mem_cons_of_mem _ ?_⟩)
  exact List.mem_map_of_mem inside

/-- Renamings that agree on the ids of a project rename it alike. -/
theorem rename_congr {p : Project τ} (own : p.RefersToOwn)
    (same : ∀ id ∈ p.freshIds, f id = g id) : p.rename f = p.rename g := by
  have tracks : p.tracks.map (·.rename f) = p.tracks.map (·.rename g) := by
    refine List.map_congr_left fun t here => ?_
    have drawn : ∀ id ∈ t.id :: t.elements.map (·.id), f id = g id := fun id member =>
      same id (List.mem_cons_of_mem _ (List.mem_flatMap.2 ⟨t, here, member⟩))
    have elements : t.elements.map (·.rename f) = t.elements.map (·.rename g) :=
      List.map_congr_left fun e inside => congrArg (fun id => { e with id })
        (drawn e.id (List.mem_cons_of_mem _ (List.mem_map_of_mem inside)))
    rw [Track.rename, Track.rename, drawn t.id List.mem_cons_self, elements]
  have elementIds : p.provenance.elementIds.mapValues f = p.provenance.elementIds.mapValues g :=
    List.map_congr_left fun entry member =>
      congrArg (entry.1, ·) (same _ (mem_freshIds (own.elementIds entry member)))
  have effects : p.provenance.effects.map (·.rename f) = p.provenance.effects.map (·.rename g) :=
    List.map_congr_left fun e member => congrArg (fun elementId => { e with elementId })
      (same _ (mem_freshIds (own.effects e member)))
  rw [rename, rename, same p.id List.mem_cons_self, tracks, elementIds, effects]

/-- A project whose ids are distinct after one renaming is renamed from there to where any other
renaming leads. -/
theorem exists_rename {p : Project τ} (own : p.RefersToOwn)
    (distinct : (p.rename f).freshIds.Nodup) : ∃ h, (p.rename f).rename h = p.rename g := by
  rw [freshIds_rename] at distinct
  refine ⟨fun id => g ((p.freshIds.find? (f · == id)).getD id), ?_⟩
  rw [rename_rename]
  refine rename_congr own fun id member => ?_
  rw [Function.comp_apply, find?_of_nodup distinct member, Option.getD_some]

end Project

/-! ## Building -/

namespace Template

variable {τ : Type} [Measure τ] {t : Template τ} {f : String → String} {ids ids' : IdSupply}

theorem zipWith_build_rename (size : Size) (kept : List (Filled τ)) (drawn : List String) :
    List.zipWith (Filled.build t size) kept (drawn.map f) =
      (List.zipWith (Filled.build t size) kept drawn).map (·.rename f) := by
  rw [List.zipWith_map_right, List.map_zipWith]
  rfl

/-- From other ids the same tracks are built, under other ids. -/
theorem buildTracks_rename (renames : ids.Renames f ids') (size : Size)
    (filled : List (Track τ × List (Filled τ))) :
    (t.buildTracks size filled ids').1 =
        (t.buildTracks size filled ids).1.map (·.rename f) ∧
      (t.buildTracks size filled ids).2.Renames f (t.buildTracks size filled ids').2 := by
  induction filled generalizing ids ids' with
  | nil => exact ⟨rfl, renames⟩
  | cons entry rest ih =>
    obtain ⟨track, kept⟩ := entry
    have later := renames.skip kept.length
    obtain ⟨tracks, left⟩ := ih (later.skip 1)
    refine ⟨?_, left⟩
    simp only [buildTracks, IdSupply.fresh, tracks, renames.take, zipWith_build_rename, later.next,
      List.map_cons, Project.Track.rename]

theorem finish_rename (tracks : List (Project.Track τ)) :
    Project.lastFinish (tracks.map (·.rename f)) = Project.lastFinish tracks := by
  simp only [Project.lastFinish, Project.Track.rename, List.flatMap_map, List.map_flatMap,
    List.map_map]
  rfl

omit [Measure τ] in
theorem elementIds_rename (filled : List (Track τ × List (Filled τ)))
    (built : List (Project.Track τ)) :
    elementIds filled (built.map (·.rename f)) = (elementIds filled built).mapValues f := by
  have drawn : ((built.map (·.rename f)).flatMap (·.elements)).map (·.id) =
      ((built.flatMap (·.elements)).map (·.id)).map f := by
    simp only [Project.Track.rename, List.flatMap_map, List.map_flatMap, List.map_map]
    rfl
  rw [elementIds, elementIds, Keyed.mapValues_ofList, drawn, List.zip_map_right]
  rfl

/-- **Building does not look at ids**: from another supply, at another time, the same project is
built under other ids. -/
theorem build_rename (renames : ids.Renames f ids') (canvas : Canvas) (name : String)
    (now now' : Instant) (used defaultsApplied : List String)
    (filled : List (Track τ × List (Filled τ))) :
    (t.build canvas name now' used defaultsApplied filled ids').1 =
      ((t.build canvas name now used defaultsApplied filled ids).1.rename f).madeAt now' := by
  obtain ⟨tracks, left⟩ := buildTracks_rename (t := t) renames canvas.size filled
  simp only [build, IdSupply.fresh, tracks, left.next, finish_rename, elementIds_rename,
    Project.rename, Project.madeAt, List.map_nil]

/-- What is built refers to its own elements, and no rule has changed them yet. -/
theorem refersToOwn_build (canvas : Canvas) (name : String) (now : Instant)
    (used defaultsApplied : List String) (filled : List (Track τ × List (Filled τ)))
    (ids : IdSupply) :
    (t.build canvas name now used defaultsApplied filled ids).1.RefersToOwn where
  elementIds := fun entry member => by
    rcases Keyed.mem_foldl_insert member with drawn | none
    · exact (List.of_mem_zip (a := entry.1) (b := entry.2) drawn).2
    · cases none
  effects := nofun

end Template

end Storyboard
