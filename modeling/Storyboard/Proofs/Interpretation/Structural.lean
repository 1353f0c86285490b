import Storyboard.Interpretation.Rules
import Storyboard.Proofs.Keyed
import Storyboard.Proofs.Rule.Refusal
import Storyboard.Proofs.Validation.Agreement
import Storyboard.Proofs.Validation.Inputs

/-!
# Structural failures

Failures that lie in the template itself: a timeline that cannot be worked out, an operator that
cannot be evaluated, a placeholder that does not exist. Step by step, filling a template that has no
such fault can fail only for the sake of the inputs or of what is looked up outside. Whoever is asked
outside may answer with any failure, and it is passed on: then, too, it is not found in the template.
-/

namespace Storyboard

/-- The failure lies in the template itself. -/
def Failure.Structural {τ : Type} : Failure τ → Prop
  | .timing _ _ | .unknownOperator _ _ => True
  | .inputs findings => ∃ f ∈ findings, f.cause.code = .missingPlaceholder
  | _ => False

variable {τ ω α : Type}

/-- No failure of a step lies in the template. -/
abbrev Unstructural (x : Except (Failure τ) α) : Prop := FailsOnly (fun f => ¬ f.Structural) x

/-- In which pieces the content of an element would have a transcript, if it asks for one. -/
def Template.Element.granularity? (e : Template.Element τ) : Option Granularity :=
  match e.content with
  | .placeholder _ => some .sentence
  | .transcript _ granularity _ => some granularity
  | _ => none

/-- A failure with which a collaborator answers what it is asked when a template is filled: about a
file of the inputs of which nothing is known, for a transcript that an element shows, or for what an
element has generated. -/
inductive Template.Raised (t : Template τ) (c : Collaborators τ ω) (inputs : Inputs τ) :
    Failure τ → Prop where
  | probe {id : String} {input : Input τ} {file : MediaRef τ} {w w' : ω} {f : Failure τ} :
      (id, input) ∈ t.withDefaults inputs → input.media? = some file → file.metadata = none →
      c.probe file w = (.error f, w') → Raised t c inputs f
  | transcript {e : Element τ} {granularity : Granularity} {name : Option String}
      {source : Option String → Granularity → Except (Failure τ) (List (Segment τ))}
      {f : Failure τ} :
      e ∈ t.elements → e.granularity? = some granularity → c.transcripts = some source →
      source name granularity = .error f → Raised t c inputs f
  | generator {e : Element τ} {name : String} {params : Keyed Json} {generator : Generator τ}
      {given : Inputs τ} {f : Failure τ} :
      e ∈ t.elements → e.content = .generated name params →
      c.generators.get? name = some generator → generator params given = .error f →
      Raised t c inputs f

/-- A failure of a step that lies in the template was raised by a collaborator. -/
abbrev Template.Relays (t : Template τ) (c : Collaborators τ ω) (inputs : Inputs τ)
    (x : Except (Failure τ) α) : Prop :=
  FailsOnly (fun f => f.Structural → t.Raised c inputs f) x

theorem Unstructural.relays {t : Template τ} {c : Collaborators τ ω} {inputs : Inputs τ}
    {x : Except (Failure τ) α} (unstructural : Unstructural x) : t.Relays c inputs x :=
  unstructural.mono fun _ not structural => absurd structural not

/-- Whatever the collaborators are asked, their failures have a property. -/
structure Collaborators.FailOnly (P : Failure τ → Prop) (c : Collaborators τ ω) : Prop where
  probe : ∀ file w, FailsOnly P (c.probe file w).1
  transcripts : ∀ source, c.transcripts = some source →
    ∀ name granularity, FailsOnly P (source name granularity)
  generators : ∀ name generator, c.generators.get? name = some generator →
    ∀ params given, FailsOnly P (generator params given)

/-- Collaborators that do not blame the template for what they cannot give. -/
abbrev Collaborators.Impartial (c : Collaborators τ ω) : Prop := c.FailOnly fun f => ¬ f.Structural

theorem Template.Raised.holds {P : Failure τ → Prop} {t : Template τ} {c : Collaborators τ ω}
    {inputs : Inputs τ} {f : Failure τ} (raised : t.Raised c inputs f) (fail : c.FailOnly P) :
    P f := by
  cases raised with
  | probe _ _ _ answer => exact fail.probe _ _ f (by rw [answer])
  | transcript _ _ known answer => exact fail.transcripts _ known _ _ f answer
  | generator _ _ known answer => exact fail.generators _ _ known _ _ f answer

/-- What comes from such collaborators lies elsewhere. -/
theorem Template.Relays.unstructural {t : Template τ} {c : Collaborators τ ω} {inputs : Inputs τ}
    {x : Except (Failure τ) α} (relays : t.Relays c inputs x) (impartial : c.Impartial) :
    Unstructural x := by
  intro f failed structural
  exact (relays f failed structural).holds impartial structural

/-- Collaborators that the library provides: a table of media or a probe that always fails, tables of
transcripts, and the generators that come with it. -/
structure Collaborators.Provided (c : Collaborators τ ω) : Prop where
  probe : ∀ file w, (c.probe file w).1 = Collaborators.failingProbe file ∨
    ∃ known, (c.probe file w).1 = Collaborators.tableProbe known file
  transcripts : ∀ source, c.transcripts = some source →
    ∃ known : Transcripts τ, source = known.segments
  generators : c.generators ⊆ Generator.builtin

/-- Collaborators that look things up in tables and have the generators of the library. -/
def Collaborators.ofTables (media : Keyed (MediaMetadata τ)) (transcripts : Transcripts τ) :
    Collaborators τ ω :=
  ⟨fun file w => (tableProbe media file, w), some transcripts.segments, Generator.builtin⟩

theorem Collaborators.provided_ofTables (media : Keyed (MediaMetadata τ))
    (transcripts : Transcripts τ) :
    (Collaborators.ofTables media transcripts : Collaborators τ ω).Provided where
  probe _ _ := .inr ⟨media, rfl⟩
  transcripts _ known := ⟨transcripts, (Option.some.inj known).symm⟩
  generators := List.Subset.refl _

/-- The generators that are provided put texts together. -/
theorem Collaborators.Provided.textTemplate {c : Collaborators τ ω} (provided : c.Provided)
    {name : String} {generator : Generator τ} (known : c.generators.get? name = some generator) :
    generator = Generator.textTemplate := by
  have member := provided.generators (Keyed.mem_of_get? known)
  cases List.mem_singleton.1 member
  rfl

/-- What is provided blames what it was asked for, never the template. -/
theorem Collaborators.Provided.impartial {c : Collaborators τ ω} (provided : c.Provided) :
    c.Impartial := by
  constructor
  · intro file w
    rcases provided.probe file w with answer | ⟨known, answer⟩
    · rw [answer]
      exact .error not_false
    · rw [answer]
      exact .ok _
  · intro source known name granularity
    obtain ⟨words, rfl⟩ := provided.transcripts source known
    unfold Transcripts.segments
    dsimp only
    split
    · exact .ok _
    · exact .error not_false
  · intro name generator known params given
    obtain rfl := provided.textTemplate known
    exact .ok _

/-- What a valid template has in order. -/
structure Template.InOrder (t : Template τ) : Prop where
  distinct : t.DistinctIds
  anchors : t.AnchorsExist
  acyclic : t.Acyclic
  placeholders : Validation.unknownPlaceholders t = []
  operators : ∀ r ∈ t.rules, r.unknownOperators = []

namespace Template

theorem coerce_unstructural (id : String) (input : Input τ) (track : TrackKind) :
    Unstructural (coerce id input track) := by
  unfold coerce
  split <;> first | exact .ok _ | exact .error not_false

theorem checkKinds_unstructural (t : Template τ) (inputs : Inputs τ) :
    Unstructural (t.checkKinds inputs) := by
  refine FailsOnly.forM fun p _ => ?_
  split
  · split
    · exact .ok ()
    · exact .error not_false
  · exact .ok ()

section Relays

variable {t : Template τ} {c : Collaborators τ ω} {inputs : Inputs τ} {e : Element τ}

theorem segments_relays (member : e ∈ t.elements) {granularity : Granularity}
    (shows : e.granularity? = some granularity) (name : Option String) :
    t.Relays c inputs (c.segments name granularity) := by
  unfold Collaborators.segments
  split
  · exact .error False.elim
  · next source known =>
    intro f answer _
    exact .transcript member shows known answer

theorem generate_relays (member : e ∈ t.elements) {name : String} {params : Keyed Json}
    (made : e.content = .generated name params) (given : Inputs τ) :
    t.Relays c inputs (c.generate name params given) := by
  unfold Collaborators.generate
  split
  · next generator known =>
    intro f answer _
    exact .generator member made known answer
  · exact .error False.elim

/-- What is put in place of a placeholder fails for a reason of its own, or as it was told to. -/
theorem substitute_relays (member : e ∈ t.elements) (given : Inputs τ) (track : TrackKind) :
    t.Relays c inputs (substitute c given track e) := by
  cases shows : e.content with
  | placeholder id =>
    have sentences : e.granularity? = some .sentence := by rw [Element.granularity?, shows]
    simp only [substitute, shows]
    split
    · exact .ok _
    · exact (segments_relays member sentences _).bind fun _ _ => .pure _
    · exact Unstructural.relays ((coerce_unstructural _ _ track).map _)
  | transcript id granularity index =>
    have pieces : e.granularity? = some granularity := by rw [Element.granularity?, shows]
    simp only [substitute, shows]
    refine (segments_relays member pieces _).bind fun segments _ => ?_
    split
    · exact .pure _
    · exact .throw False.elim
  | fixed text source =>
    simp only [substitute, shows]
    exact .ok _
  | generated generator params =>
    simp only [substitute, shows]
    exact (generate_relays member shows given).map _

/-- So does the content of every element on a track. -/
theorem substitute_relays_of_track (given : Inputs τ) : ∀ track ∈ t.tracks, ∀ e ∈ track.elements,
    t.Relays c inputs (substitute c given track.kind e) :=
  fun track here _ member =>
    substitute_relays (List.mem_flatMap.2 ⟨track, here, member⟩) given track.kind

/-- Looking a file up fails as whoever is asked about it does. -/
theorem probeInput_relays {entry : String × Input τ} (member : entry ∈ t.withDefaults inputs)
    (w : ω) : t.Relays c inputs (probeInput c entry.2 w).1 := by
  unfold probeInput
  split
  · exact .ok _
  · next file unknown =>
    obtain ⟨media, nothing⟩ := Option.filter_eq_some_iff.1 unknown
    split
    · next answer =>
      refine .error fun _ => ?_
      exact .probe member media (Option.isNone_iff_eq_none.1 nothing) answer
    · exact .ok _
    · exact .ok _

theorem probeInputs_relays {entries : Inputs τ} (members : entries ⊆ t.withDefaults inputs)
    (w : ω) : t.Relays c inputs (probeInputs c entries w).1 := by
  induction entries generalizing w with
  | nil => exact .ok _
  | cons entry rest ih =>
    obtain ⟨id, input⟩ := entry
    obtain ⟨here, others⟩ := List.cons_subset.1 members
    have first := probeInput_relays (c := c) here w
    unfold probeInputs
    split
    · next failed =>
      rw [failed] at first
      exact .error (first _ rfl)
    · next w' _ =>
      have later := ih others w'
      split
      · next failed =>
        rw [failed] at later
        exact .error (later _ rfl)
      · exact .ok _

theorem prepare_relays (t : Template τ) (c : Collaborators τ ω) (inputs : Inputs τ) (w : ω) :
    t.Relays c inputs (t.prepare c inputs w).1 := by
  have probed : t.Relays c inputs (probeInputs c (t.withDefaults inputs) w).1 :=
    probeInputs_relays (List.Subset.refl _) w
  unfold prepare
  split
  · next failed =>
    rw [failed] at probed
    exact .error (probed _ rfl)
  · exact .ok _

end Relays

theorem fillTrack_failsOnly {P : Failure τ → Prop} {timeline : Timeline τ}
    {content : Element τ → Except (Failure τ) (Option (Project.Content τ))} {es : List (Element τ)}
    (timed : ∀ e ∈ es, ∃ span, timeline.span? e.id = some span)
    (contents : ∀ e ∈ es, FailsOnly P (content e)) :
    FailsOnly P (fillTrack timeline content es) := by
  induction es with
  | nil => exact .ok _
  | cons e rest ih =>
    obtain ⟨span, known⟩ := timed e List.mem_cons_self
    unfold fillTrack
    rw [known]
    refine (contents e List.mem_cons_self).bind fun made _ => ?_
    refine (ih (fun e member => timed e (List.mem_cons_of_mem _ member))
      fun e member => contents e (List.mem_cons_of_mem _ member)).bind fun kept _ => ?_
    split <;> exact .pure _

theorem fillTracks_failsOnly {P : Failure τ → Prop} {timeline : Timeline τ}
    {content : TrackKind → Element τ → Except (Failure τ) (Option (Project.Content τ))}
    {tracks : List (Track τ)}
    (timed : ∀ track ∈ tracks, ∀ e ∈ track.elements, ∃ span, timeline.span? e.id = some span)
    (contents : ∀ track ∈ tracks, ∀ e ∈ track.elements, FailsOnly P (content track.kind e)) :
    FailsOnly P (fillTracks timeline content tracks) := by
  refine FailsOnly.mapM fun track member => ?_
  exact (fillTrack_failsOnly (timed track member) (contents track member)).bind fun _ _ => .pure _

variable [Measure τ]

theorem durationOf_unstructural (inputs : Inputs τ) (options : FillOptions τ) (e : Element τ) :
    Unstructural (durationOf inputs options e) := by
  unfold durationOf
  split
  · exact .ok _
  · dsimp only
    split
    · split
      · exact .ok _
      · exact .error not_false
    · split
      · exact .ok _
      · split
        · exact .ok _
        · exact .error not_false
    · exact .error not_false
  · split
    · exact .error not_false
    · split
      · exact .ok _
      · exact .error not_false
  · exact .ok _

/-- Where the template is in order, a timeline fails only with its durations. -/
theorem InOrder.resolve {t : Template τ} (order : t.InOrder) {timelineDuration : Option τ}
    {durationOf : Element τ → Except (Failure τ) τ} {P : Failure τ → Prop}
    (durations : ∀ e, FailsOnly P (durationOf e)) :
    FailsOnly P (Timeline.resolve t timelineDuration durationOf) := by
  intro failure failed
  rcases Timeline.resolve_acyclic timelineDuration durationOf order.distinct order.anchors
    order.acyclic with ⟨timeline, done⟩ | ⟨e, _, _, cause, known, named⟩
  · simp [done] at failed
  · obtain rfl := Except.error.inj (named.symm.trans failed)
    exact durations e _ known

/-- The timeline of a template lists all elements. -/
theorem span?_of_resolve {t : Template τ} {timelineDuration : Option τ}
    {durationOf : Element τ → Except (Failure τ) τ} {timeline : Timeline τ}
    (done : Timeline.resolve t timelineDuration durationOf = .ok timeline) {track : Track τ}
    (here : track ∈ t.tracks) {e : Element τ} (member : e ∈ track.elements) :
    ∃ span, timeline.span? e.id = some span := by
  obtain ⟨_, _, _, _, _, ids, _⟩ := Timeline.run_of_resolve done
  have listed : e.id ∈ timeline.map Prod.fst := by
    rw [ids]
    exact List.mem_map_of_mem (List.mem_flatMap.2 ⟨track, here, member⟩)
  obtain ⟨entry, inside, same⟩ := List.mem_map.1 listed
  exact Option.isSome_iff_exists.1
    (List.lookup_isSome_iff.2 ⟨entry, inside, beq_iff_eq.2 same.symm⟩)

end Template

end Storyboard
