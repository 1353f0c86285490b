import Storyboard.Interpretation
import Storyboard.Proofs.Extraction.Roles
import Storyboard.Proofs.Extraction.Run
import Storyboard.Proofs.Position
import Storyboard.Proofs.Steps
import Storyboard.Proofs.Timeline.Equations

/-!
# The timing of an extracted template

An element that is placed relative to another one is placed relative to one that was made before
it. So there are no circles, and in exact numbers the distances lead back to the times that they
were taken from, from one element to the next.
-/

namespace Storyboard.Extraction

open Source

variable {τ : Type} [Measure τ] {ctx : Context τ} {s : State τ} {tracks : List (Track τ)}
  {t : Template τ}

/-- A template is what a run of extraction has made of tracks. -/
structure Extracted (ctx : Context τ) (s : State τ) (tracks : List (Track τ)) (t : Template τ) :
    Prop where
  sound : s.Sound ctx.library
  tracks : List.Forall₂ (TrackMirrors ctx s) tracks t.tracks
  ids : s.emitted.map (·.id) = t.elements.map (·.id)
  placeholders : t.placeholders = s.placeholders
  canvas : t.canvas = ctx.canvas

omit [Measure τ] in
theorem State.sound_start (library : List (MediaFile τ)) (ids : IdSupply)
    (names : Function.Injective ids.name) : State.Sound library ⟨ids, [], [], [], []⟩ where
  names := names
  elements := List.nodup_nil
  elementsDrawn _ member := absurd member List.not_mem_nil
  placeholders := List.nodup_nil
  placeholdersDrawn _ member := absurd member List.not_mem_nil
  filled _ member := absurd member List.not_mem_nil
  media _ _ noted := by cases noted

/-- Where extraction succeeds, its run has made the template. -/
theorem extracted_of_extract {project : Source.Project} {library : List (MediaFile τ)}
    {options : ExtractOptions τ} {now : Instant} {ids left : IdSupply}
    (names : Function.Injective ids.name) (defaults : options.includeDefaultValues = true)
    (done : extract project tracks library options now ids = .ok (t, left)) :
    ∃ canvas s, Extracted ⟨library, canvas, options⟩ s tracks t := by
  unfold extract at done
  dsimp only at done
  split at done
  · cases done
  · split at done
    · next canvas _ =>
      split at done
      · cases done
      · rw [pure_ok, Prod.mk.injEq] at done
        obtain ⟨rfl, _⟩ := done
        have start := State.sound_start library (ids.skip 1) names
        obtain ⟨run, mirrors⟩ := extractTracks_spec ⟨library, canvas, options⟩ defaults
          (tracks.zip (assignRoles library canvas options tracks)) start
        obtain ⟨added, emitted, ids⟩ := run.emitted
        rw [List.map_fst_zip (length_assignRoles library canvas options tracks).ge] at mirrors
        refine ⟨canvas, _, run.sound, mirrors, ?_, rfl, rfl⟩
        rw [emitted]
        exact ids
    · cases done

/-! ## Anchors -/

theorem foldl_nearer_mem {tolerance : τ} {cs : List (Candidate τ)} {best : Option (Candidate τ)}
    {c : Candidate τ} (chosen : cs.foldl (nearer tolerance) best = some c) :
    c ∈ cs ∨ best = some c := by
  induction cs generalizing best with
  | nil => exact .inr chosen
  | cons first rest ih =>
    rcases ih chosen with member | kept
    · exact .inl (List.mem_cons_of_mem _ member)
    · unfold nearer at kept
      split at kept
      · exact .inl (Option.some.inj kept ▸ List.mem_cons_self)
      · exact .inr kept

/-- An element is placed at its time, or at its distance from an anchor of an earlier one. -/
theorem timingFor_cases (options : ExtractOptions τ) (earlier : List (Emitted τ)) (start : τ) :
    timingFor options earlier start = .absolute start ∨
      ∃ x ∈ earlier, ∃ anchor,
        timingFor options earlier start = .relative x.id (start - x.time anchor) anchor := by
  unfold timingFor
  split
  · split
    · next c chosen =>
      rcases foldl_nearer_mem chosen with member | none
      · obtain ⟨x, inside, listed⟩ := List.mem_flatMap.1 member
        obtain ⟨anchor, _, rfl⟩ := List.mem_map.1 listed
        exact .inr ⟨x, inside, anchor, rfl⟩
      · cases none
    · exact .inl rfl
  · exact .inl rfl

/-- An element lasts as long as its source, or as long as its file where it plays that in full. -/
theorem durationFor_cases (options : ExtractOptions τ) (e : Element τ)
    (file : Option (MediaFile τ)) :
    durationFor options e file = .fixed e.duration ∨
      ∃ f d, file = some f ∧ f.metadata.duration = some d ∧
        Measure.lt (Measure.abs (d - e.duration)) fullSourceTolerance = true ∧
        durationFor options e file = .content none (some d) := by
  unfold durationFor
  split
  · next f kept =>
    obtain ⟨plays, wanted⟩ := Option.filter_eq_some_iff.1 kept
    obtain ⟨-, full⟩ := Bool.and_eq_true_iff.1 wanted
    obtain ⟨-, near⟩ := Bool.and_eq_true_iff.1 full
    obtain ⟨d, lasts, near⟩ := (Option.any_eq_true _ _).1 near
    exact .inr ⟨f, d, plays, lasts, near, by rw [lasts]⟩
  · exact .inl rfl

theorem isFillGap_durationFor (options : ExtractOptions τ) (e : Element τ)
    (file : Option (MediaFile τ)) : (durationFor options e file).isFillGap = false := by
  unfold durationFor
  split <;> rfl

namespace Extracted

variable (made : Extracted ctx s tracks t)
include made

theorem elements :
    List.Forall₂ (Mirrors ctx s) (tracks.flatMap (·.elements)) t.elements :=
  List.rel_flatMap made.tracks fun _ _ mirrors => mirrors.elements

/-- Every element of the template is made from an element. -/
theorem source {e : Template.Element τ} (member : e ∈ t.elements) :
    ∃ x ∈ tracks.flatMap (·.elements), Mirrors ctx s x e := by
  obtain ⟨place, inside, rfl⟩ := List.mem_iff_getElem.1 member
  have bound := made.elements.length_eq ▸ inside
  exact ⟨_, List.getElem_mem bound, made.elements.get bound inside⟩

theorem distinct : t.DistinctIds := by
  rw [Template.DistinctIds, ← made.ids]
  exact made.sound.elements

/-- Every element is placed relative to one that was made before it, if to any. -/
theorem anchored {e : Template.Element τ} (member : e ∈ t.elements) {id : String}
    (anchor : e.timing.anchorId? = some id) :
    (s.emitted.map (·.id)).idxOf id < (s.emitted.map (·.id)).idxOf e.id ∧
      id ∈ t.elements.map (·.id) := by
  obtain ⟨x, _, mirrors⟩ := made.source member
  obtain ⟨earlier, later, place, timing⟩ := mirrors.timing
  rw [timing] at anchor
  rcases timingFor_cases ctx.options earlier x.start with absolute | ⟨a, before, _, relative⟩
  · rw [absolute] at anchor
    cases anchor
  · rw [relative] at anchor
    obtain rfl : a.id = id := Option.some.inj anchor
    have distinct := made.sound.elements
    rw [place, List.map_append, List.map_cons] at distinct
    have inside : a.id ∈ earlier.map (·.id) := List.mem_map_of_mem before
    have apart : e.id ∉ earlier.map (·.id) := fun listed =>
      List.disjoint_of_nodup_append distinct listed List.mem_cons_self
    rw [← made.ids, place, List.map_append, List.map_cons]
    refine ⟨?_, List.mem_append_left _ inside⟩
    rw [List.idxOf_append_of_mem inside, List.idxOf_append_of_notMem apart]
    exact Nat.lt_add_right _ (List.idxOf_lt_length_of_mem inside)

theorem anchors : t.AnchorsExist := fun e member id anchor => by
  obtain ⟨a, inside, same⟩ := List.mem_map.1 (made.anchored member anchor).2
  exact ⟨a, inside, same⟩

theorem noGaps {e : Template.Element τ} (member : e ∈ t.elements) :
    e.duration.isFillGap = false := by
  obtain ⟨x, _, mirrors⟩ := made.source member
  rw [mirrors.duration]
  exact isFillGap_durationFor _ _ _

theorem acyclic : t.Acyclic := by
  -- dependencies lead to what was made earlier
  have step : ∀ {id needed}, t.DependsOn id needed →
      (s.emitted.map (·.id)).idxOf needed < (s.emitted.map (·.id)).idxOf id := by
    rintro _ _ (⟨stands, anchor⟩ | ⟨stands, gap⟩)
    · exact (made.anchored stands.mem anchor).1
    · simp [made.noGaps stands.mem] at gap
  have path : ∀ {id needed}, Relation.TransGen t.DependsOn id needed →
      (s.emitted.map (·.id)).idxOf needed < (s.emitted.map (·.id)).idxOf id := by
    intro id needed path
    induction path with
    | single depends => exact step depends
    | tail _ depends ih => exact (step depends).trans ih
  exact fun id circle => lt_irrefl _ (path circle)

end Extracted

/-! ## Times -/

theorem durationFor_fixed {options : ExtractOptions τ}
    (fixed : options.useContentDurations = false) (e : Element τ) (file : Option (MediaFile τ)) :
    durationFor options e file = .fixed e.duration := by
  cases file <;> simp [durationFor, fixed, Option.filter]

/-- The times of the elements that were made, by their ids. -/
def State.spans (s : State τ) (id : String) : Span τ :=
  ((s.emitted.find? (·.id == id)).map fun x => ⟨x.start, x.duration, false⟩).getD
    ⟨Measure.zero, Measure.zero, false⟩

theorem State.Sound.spans_eq {library : List (MediaFile τ)} (sound : s.Sound library)
    {x : Emitted τ} (member : x ∈ s.emitted) : s.spans x.id = ⟨x.start, x.duration, false⟩ := by
  unfold spans
  cases found : s.emitted.find? (·.id == x.id) with
  | none => simpa using List.find?_eq_none.1 found x member
  | some y =>
    have same : y.id = x.id := by simpa using List.find?_some found
    rw [List.inj_on_of_nodup_map sound.elements (List.mem_of_find?_eq_some found) member same]
    rfl

namespace Extracted

/-- The times of an element of the template are those of the element that it is made from. -/
theorem spans_eq (made : Extracted ctx s tracks t) {x : Element τ} {e : Template.Element τ}
    (mirrors : Mirrors ctx s x e) : s.spans e.id = ⟨x.start, x.duration, false⟩ := by
  obtain ⟨earlier, later, place, _⟩ := mirrors.timing
  have member : (⟨e.id, x.start, x.duration⟩ : Emitted τ) ∈ s.emitted := by
    rw [place]
    exact List.mem_append_right _ List.mem_cons_self
  exact made.sound.spans_eq member

theorem listed (made : Extracted ctx s tracks t) {x : Element τ} {e : Template.Element τ}
    (mirrors : Mirrors ctx s x e) : e.id ∈ t.elements.map (·.id) := by
  obtain ⟨earlier, later, place, _⟩ := mirrors.timing
  rw [← made.ids, place, List.map_append]
  exact List.mem_append_right _ List.mem_cons_self

/-- In exact numbers the times of the project solve the timing equations of the template. -/
theorem solves {ctx : Context Rat} {s : State Rat} {tracks : List (Track Rat)} {t : Template Rat}
    (made : Extracted ctx s tracks t) (fixed : ctx.options.useContentDurations = false)
    (timelineDuration : Option Rat) (inputs : Inputs Rat) (options : FillOptions Rat) :
    t.Solves timelineDuration (Template.durationOf inputs options) s.spans := by
  have cases : ∀ e ∈ t.elements, ∃ x : Element Rat, s.spans e.id = ⟨x.start, x.duration, false⟩ ∧
      e.duration = .fixed x.duration ∧ (e.timing = .absolute x.start ∨
        ∃ a ∈ s.emitted, ∃ anchor,
          e.timing = .relative a.id (x.start - a.time anchor) anchor) := by
    intro e member
    obtain ⟨x, _, mirrors⟩ := made.source member
    obtain ⟨earlier, later, place, timing⟩ := mirrors.timing
    refine ⟨x, made.spans_eq mirrors, ?_, ?_⟩
    · rw [mirrors.duration, durationFor_fixed fixed]
    · rw [timing]
      refine (timingFor_cases _ _ _).imp id fun ⟨a, before, anchor, relative⟩ =>
        ⟨a, ?_, anchor, relative⟩
      rw [place]
      exact List.mem_append_left _ before
  refine ⟨fun e member start absolute => ?_, fun e member id offset anchor relative => ?_,
    fun e member hint dynamic => ?_, fun e member => ?_, fun e member _ => ?_,
    fun e next limit stands gap => ?_, fun e limit length stands gap _ => ?_⟩
  · obtain ⟨x, spans, _, same | ⟨_, _, _, same⟩⟩ := cases e member
    · rw [same] at absolute
      rw [spans]
      exact Template.Timing.absolute.inj absolute
    · rw [same] at absolute
      cases absolute
  · obtain ⟨x, spans, _, same | ⟨a, inside, _, same⟩⟩ := cases e member
    · rw [same] at relative
      cases relative
    · rw [same] at relative
      cases relative
      rw [spans, made.sound.spans_eq inside]
      exact (relativeStart_distance a.start a.duration anchor x.start).symm
  · obtain ⟨x, _, _, same | ⟨_, _, _, same⟩⟩ := cases e member <;> rw [same] at dynamic <;>
      cases dynamic
  · obtain ⟨x, spans, _, same | ⟨_, _, _, same⟩⟩ := cases e member <;> rw [spans, same] <;> rfl
  · obtain ⟨x, spans, duration, _⟩ := cases e member
    rw [spans, Template.durationOf, duration]
  · have none := made.noGaps stands.mem
    rw [gap] at none
    cases none
  · have none := made.noGaps stands.mem
    rw [gap] at none
    cases none

/-- **The timeline** of an extracted template gives back the times of the project. -/
theorem resolve {ctx : Context Rat} {s : State Rat} {tracks : List (Track Rat)} {t : Template Rat}
    (made : Extracted ctx s tracks t) (fixed : ctx.options.useContentDurations = false)
    (timelineDuration : Option Rat) (inputs : Inputs Rat) (options : FillOptions Rat) :
    Timeline.resolve t timelineDuration (Template.durationOf inputs options) =
      .ok (t.elements.map fun e => (e.id, s.spans e.id)) :=
  Timeline.resolve_of_solves made.distinct made.anchors made.acyclic
    (.inr fun _ stands => made.noGaps stands.mem)
    (made.solves fixed timelineDuration inputs options)

end Extracted

end Storyboard.Extraction
