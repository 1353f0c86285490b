import Storyboard.Proofs.Extraction.State

/-!
# A run of extraction

Element by element and track by track: each template element mirrors the element it is made from,
and is placed with a view to the elements made before it and no others.
-/

namespace Storyboard.Extraction

open Source

variable {τ : Type} [Measure τ] {ctx : Context τ} {s s' : State τ}

/-- A template element has been made from an element. -/
structure Mirrors (ctx : Context τ) (s : State τ) (e : Element τ) (made : Template.Element τ) :
    Prop where
  name : made.name = e.name
  duration : made.duration = durationFor ctx.options e (e.file? ctx.library)
  position : made.position = e.position.map (·.toPercent ctx.canvas.size)
  hidden : made.hidden = e.hidden
  muted : made.muted = e.muted
  content : Carries ctx s.placeholders e made.content
  /-- The timing looks at what was made before the element. -/
  timing : ∃ earlier later, s.emitted = earlier ++ ⟨made.id, e.start, e.duration⟩ :: later ∧
    made.timing = timingFor ctx.options earlier e.start

/-- A template track has been made from a track. -/
structure TrackMirrors (ctx : Context τ) (s : State τ) (track : Track τ)
    (made : Template.Track τ) : Prop where
  name : made.name = track.name
  kind : made.kind = track.kind
  muted : made.muted = track.muted
  volume : made.volume = track.volume
  elements : List.Forall₂ (Mirrors ctx s) track.elements made.elements

/-- What has been made stays as it is. -/
theorem Mirrors.later {after : List (Template.Element τ)} (grown : s.Extends ctx.library s' after)
    {e : Element τ} {made : Template.Element τ} (mirrors : Mirrors ctx s e made) :
    Mirrors ctx s' e made := by
  obtain ⟨added, emitted, _⟩ := grown.emitted
  obtain ⟨earlier, later, place, timing⟩ := mirrors.timing
  refine { mirrors with
    content := mirrors.content.later grown.placeholders
    timing := ⟨earlier, later ++ added, ?_, timing⟩ }
  rw [emitted, place, List.append_assoc, List.cons_append]

theorem TrackMirrors.later {after : List (Template.Element τ)}
    (grown : s.Extends ctx.library s' after) {track : Track τ} {made : Template.Track τ}
    (mirrors : TrackMirrors ctx s track made) : TrackMirrors ctx s' track made :=
  { mirrors with elements := mirrors.elements.imp fun _ _ each => each.later grown }

/-! ## Elements -/

omit [Measure τ] in
/-- Putting an element with a fresh id at the end. -/
theorem State.Sound.emit (sound : s.Sound ctx.library) (start duration : τ)
    {made : Template.Element τ} (named : made.id = s.ids.next) :
    s.Extends ctx.library
      { s with ids := s.ids.skip 1, emitted := s.emitted ++ [⟨s.ids.next, start, duration⟩] }
      [made] where
  sound := { sound.skip s.captionStyles with
    elements := by
      have fresh : s.ids.next ∉ s.emitted.map (·.id) := by
        intro member
        obtain ⟨x, inside, same⟩ := List.mem_map.1 member
        exact IdSupply.not_drawn_next sound.names (same ▸ sound.elementsDrawn x inside)
      rw [List.map_append]
      refine List.Nodup.append sound.elements (List.nodup_singleton _) ?_
      intro id member last
      rw [List.mem_singleton.1 last] at member
      exact fresh member
    elementsDrawn := fun x member => by
      rcases List.mem_append.1 member with before | last
      · exact (sound.elementsDrawn x before).skip 1
      · rw [List.mem_singleton.1 last]
        exact s.ids.drawn_next }
  emitted := ⟨[⟨s.ids.next, start, duration⟩], rfl, by simp [named]⟩
  placeholders := List.prefix_rfl

theorem extractElement_spec (role : TrackRole) (sound : s.Sound ctx.library)
    (defaults : ctx.options.includeDefaultValues = true) (captionStyleId : Option String)
    (e : Element τ) :
    s.Extends ctx.library (extractElement ctx role captionStyleId e s).2
        [(extractElement ctx role captionStyleId e s).1] ∧
      Mirrors ctx (extractElement ctx role captionStyleId e s).2 e
        (extractElement ctx role captionStyleId e s).1 := by
  obtain ⟨filled, carries⟩ := contentFor_spec role sound defaults e
  unfold extractElement
  generalize contentFor ctx role e s = result at filled carries ⊢
  obtain ⟨content, s'⟩ := result
  dsimp only at filled carries ⊢
  exact ⟨filled.trans (filled.sound.emit e.start e.duration rfl), {
    name := rfl
    duration := rfl
    position := rfl
    hidden := rfl
    muted := rfl
    content := carries
    timing := ⟨s'.emitted, [], rfl, rfl⟩ }⟩

theorem extractElements_spec (role : TrackRole) (defaults : ctx.options.includeDefaultValues = true)
    (captionStyleId : Option String) (es : List (Element τ)) (sound : s.Sound ctx.library) :
    s.Extends ctx.library (extractElements ctx role captionStyleId es s).2
        (extractElements ctx role captionStyleId es s).1 ∧
      List.Forall₂ (Mirrors ctx (extractElements ctx role captionStyleId es s).2) es
        (extractElements ctx role captionStyleId es s).1 := by
  induction es generalizing s with
  | nil => exact ⟨sound.extends, .nil⟩
  | cons e rest ih =>
    obtain ⟨first, mirrors⟩ := extractElement_spec role sound defaults captionStyleId e
    obtain ⟨later, others⟩ := ih first.sound
    exact ⟨first.trans later, .cons (mirrors.later later) others⟩

/-! ## Tracks -/

theorem addCaptionStyle_extends (role : TrackRole) (sound : s.Sound ctx.library) (track : Track τ) :
    s.Extends ctx.library (addCaptionStyle ctx role track s).2 [] := by
  unfold addCaptionStyle
  split
  · dsimp only [IdSupply.fresh]
    split
    · exact ⟨sound.skip _, ⟨[], (List.append_nil _).symm, rfl⟩, List.prefix_rfl⟩
    · exact sound.extends
  · exact sound.extends

theorem extractTrack_spec (sound : s.Sound ctx.library)
    (defaults : ctx.options.includeDefaultValues = true) (track : Track τ) (role : TrackRole) :
    s.Extends ctx.library (extractTrack ctx track role s).2
        (extractTrack ctx track role s).1.elements ∧
      TrackMirrors ctx (extractTrack ctx track role s).2 track
        (extractTrack ctx track role s).1 := by
  have named : s.Extends ctx.library { s with ids := s.ids.skip 1 } [] :=
    ⟨sound.skip _, ⟨[], (List.append_nil _).symm, rfl⟩, List.prefix_rfl⟩
  have styled := named.trans (addCaptionStyle_extends role named.sound track)
  unfold extractTrack
  dsimp only [IdSupply.fresh]
  generalize addCaptionStyle ctx role track { s with ids := s.ids.skip 1 } = result at styled ⊢
  obtain ⟨captionStyleId, s'⟩ := result
  obtain ⟨filled, mirrors⟩ :=
    extractElements_spec role defaults captionStyleId track.elements styled.sound
  exact ⟨styled.trans filled, rfl, rfl, rfl, rfl, mirrors⟩

/-- **A run**: every track is mirrored by the template track made from it. -/
theorem extractTracks_spec (ctx : Context τ) (defaults : ctx.options.includeDefaultValues = true)
    (tracks : List (Track τ × TrackRole)) (sound : s.Sound ctx.library) :
    s.Extends ctx.library (extractTracks ctx tracks s).2
        ((extractTracks ctx tracks s).1.flatMap (·.elements)) ∧
      List.Forall₂ (TrackMirrors ctx (extractTracks ctx tracks s).2) (tracks.map Prod.fst)
        (extractTracks ctx tracks s).1 := by
  induction tracks generalizing s with
  | nil => exact ⟨sound.extends, .nil⟩
  | cons entry rest ih =>
    obtain ⟨track, role⟩ := entry
    obtain ⟨first, mirrors⟩ := extractTrack_spec sound defaults track role
    obtain ⟨later, others⟩ := ih first.sound
    exact ⟨first.trans later, .cons (mirrors.later later) others⟩

end Storyboard.Extraction
