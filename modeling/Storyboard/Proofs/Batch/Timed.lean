import Storyboard.Proofs.Batch.Structural
import Storyboard.Proofs.Timeline.Account

/-!
# What a timeline is never blamed for

Whatever is wrong with a template, no element is reached before what it needs, and none that a
timeline was worked out for lacks a span. So filling a template and working through a batch never fail
for such a reason, whether or not the template is valid.
-/

namespace Storyboard

variable {τ ω α : Type}

/-- A step never fails because an element was reached too early or has no span. -/
abbrev Timely (x : Except (Failure τ) α) : Prop := FailsOnly (fun f => ¬ f.Premature) x

theorem Failure.Premature.structural {f : Failure τ} (premature : f.Premature) : f.Structural := by
  cases f <;> trivial

/-- What does not fail for the sake of the template does not fail for the sake of a timeline. -/
theorem Unstructural.timely {x : Except (Failure τ) α} (unstructural : Unstructural x) : Timely x :=
  fun f failed premature => unstructural f failed premature.structural

/-- A failure of a step for such a reason was raised by a collaborator. -/
abbrev Template.Punctual (t : Template τ) (c : Collaborators τ ω) (inputs : Inputs τ)
    (x : Except (Failure τ) α) : Prop :=
  FailsOnly (fun f => f.Premature → t.Raised c inputs f) x

section Punctual

variable {t : Template τ} {c : Collaborators τ ω} {inputs : Inputs τ} {x : Except (Failure τ) α}

theorem Timely.punctual (timely : Timely x) : t.Punctual c inputs x :=
  timely.mono fun _ not premature => absurd premature not

theorem Template.Relays.punctual (relays : t.Relays c inputs x) : t.Punctual c inputs x :=
  relays.mono fun _ raised premature => raised premature.structural

theorem Template.Punctual.timely (punctual : t.Punctual c inputs x)
    (fail : c.FailOnly fun f => ¬ f.Premature) : Timely x := by
  intro f failed premature
  exact (punctual f failed premature).holds fail premature

end Punctual

theorem resolve_timely [Measure τ] (t : Template τ) (timelineDuration : Option τ)
    {durationOf : Template.Element τ → Except (Failure τ) τ}
    (durations : ∀ e, Timely (durationOf e)) :
    Timely (Timeline.resolve t timelineDuration durationOf) :=
  Timeline.resolve_failsOnly (fun e _ _ => durations e) (fun _ => not_false) (fun _ _ => not_false)
    fun _ => not_false

namespace Template

theorem interpretPrepared_punctual [Measure τ] (t : Template τ) (c : Collaborators τ ω)
    (inputs : Inputs τ) (prepared : Prepared τ) (options : FillOptions τ) (now : Instant)
    (ids : IdSupply) : t.Punctual c inputs (t.interpretPrepared c prepared options now ids) := by
  unfold interpretPrepared
  dsimp only
  split
  · split
    · refine (checkKinds_unstructural t _).timely.punctual.bind fun _ _ => ?_
      refine (resolve_timely t _ fun e =>
        (durationOf_unstructural _ options e).timely).punctual.bind fun timeline done => ?_
      refine (fillTracks_failsOnly (fun _ here _ => span?_of_resolve done here)
        fun track here e member =>
          (substitute_relays_of_track _ track here e member).punctual).bind fun filled _ => ?_
      exact .pure _
    · exact FailsOnly.throw_bind False.elim
  · exact FailsOnly.throw_bind False.elim

theorem interpret_punctual [Measure τ] (t : Template τ) (c : Collaborators τ ω) (inputs : Inputs τ)
    (options : FillOptions τ) (now : Instant) (ids : IdSupply) (w : ω) :
    t.Punctual c inputs (t.interpret c inputs options now ids w).1 := by
  have prepared := (prepare_relays t c inputs w).punctual
  unfold interpret
  split
  · next failed =>
    rw [failed] at prepared
    exact .error (prepared _ rfl)
  · exact interpretPrepared_punctual t c inputs _ options now ids

/-- Rules fail at most for an operator that is not known. -/
theorem settle_timely (t : Template Float) (made : Project Float × IdSupply) :
    Timely (t.settle made) := by
  have applied : Timely (made.1.applyRules t.rules).2 := by
    cases look : Rule.refused? t.rules with
    | none => exact Project.applyRules_failsOnly look made.1
    | some refused =>
      rw [Project.applyRules_refused look]
      exact .error not_false
  unfold settle
  split
  · next failed => rw [failed] at applied; exact .error (applied _ rfl)
  · exact .ok _

theorem interpretWithRules_punctual (t : Template Float) (c : Collaborators Float ω)
    (inputs : Inputs Float) (options : FillOptions Float) (now : Instant) (ids : IdSupply) (w : ω) :
    t.Punctual c inputs (t.interpretWithRules c inputs options now ids w).1 :=
  (interpret_punctual t c inputs options now ids w).bind fun made _ =>
    (settle_timely t made).punctual

end Template

namespace Batch

theorem quickProject_timely [Measure τ] (t : Template τ) (inputs : Inputs τ) (name : String)
    (now : Instant) (ids : IdSupply) : Timely (quickProject t inputs name now ids) := by
  unfold quickProject
  dsimp only
  split
  · refine (resolve_timely t none fun _ => .ok _).bind fun timeline done => ?_
    refine (Template.fillTracks_failsOnly
      (fun _ here _ => Template.span?_of_resolve done here) fun track _ e _ =>
        (quickContent_unstructural t inputs track.kind e).timely.map some).bind fun filled _ => ?_
    exact .pure _
  · exact FailsOnly.throw_bind not_false

/-- No row of a batch without collaborators fails for the sake of a timeline. -/
theorem runQuick_timely (job : Job) (t : Template Float) (cancelled : ω → Bool × ω) (now : Instant)
    (ids : IdSupply) (w : ω) : ∀ o ∈ (runQuick job t cancelled now ids w).1, Timely o.result :=
  process_failsOnly job t (fun source row => (rowInputs_unstructural t source row).timely)
    (fun inputs name ids _ => .map _ ((quickProject_timely t inputs name now ids).bind fun made _ =>
      Template.settle_timely t made)) cancelled now ids w

/-- Nor does one of a batch in either mode, unless a collaborator was asked and said so. -/
theorem run_punctual (job : Job) (t : Template Float) (c : Collaborators Float ω)
    (options : FillOptions Float) (cancelled : ω → Bool × ω) (now : Instant) (ids : IdSupply)
    (w : ω) : ∀ o ∈ (run job t c options cancelled now ids w).1,
      FailsOnly (fun f => f.Premature → job.mode = .full ∧ ∃ inputs, t.Raised c inputs f)
        o.result := by
  have never {f : Failure Float} {p : Prop} (not : ¬ f.Premature) (premature : f.Premature) : p :=
    absurd premature not
  unfold run
  split
  · intro o member
    exact (runQuick_timely job t cancelled now ids w o member).mono fun _ => never
  · next full =>
    refine process_failsOnly job t (fun source row =>
      (rowInputs_unstructural t source row).timely.mono fun _ => never) (fun inputs name ids w => ?_)
      cancelled now ids w
    exact .map _ ((Template.interpretWithRules_punctual t c inputs _ now ids w).mono
      fun _ raised premature => ⟨full, inputs, raised premature⟩)

/-- **The work on a timeline adds up** for every template, valid or not: the counters, the queues, the
rounds and the durations that are asked for are accounted for, and a timeline that is worked out has a
span for each element. So no element is ever found to be reached before what it needs or to lack a
span: whoever reads of such a failure has it from a collaborator that was asked. -/
theorem accounted_timely (t : Template Float) :
    (∀ timelineDuration durationOf, Timeline.Accounted t timelineDuration durationOf ∧
      ∀ timeline, Timeline.resolve t timelineDuration durationOf = .ok timeline →
        ∀ track ∈ t.tracks, ∀ e ∈ track.elements, ∃ span, timeline.span? e.id = some span) ∧
    (∀ (ω : Type) (c : Collaborators Float ω) (inputs : Inputs Float) (options : FillOptions Float)
        (now : Instant) (ids : IdSupply) (w : ω),
      (t.Punctual c inputs (t.interpret c inputs options now ids w).1 ∧
        t.Punctual c inputs (t.interpretWithRules c inputs options now ids w).1) ∧
      (c.FailOnly (fun f => ¬ f.Premature) → Timely (t.interpret c inputs options now ids w).1 ∧
        Timely (t.interpretWithRules c inputs options now ids w).1)) ∧
    (∀ inputs name now ids, Timely (quickProject t inputs name now ids)) ∧
    ∀ (ω : Type) (job : Job) (c : Collaborators Float ω) (options : FillOptions Float)
        (cancelled : ω → Bool × ω) (now : Instant) (ids : IdSupply) (w : ω),
      (∀ o ∈ (run job t c options cancelled now ids w).1,
        FailsOnly (fun f => f.Premature → job.mode = .full ∧ ∃ inputs, t.Raised c inputs f)
          o.result) ∧
      (c.FailOnly (fun f => ¬ f.Premature) →
        ∀ o ∈ (run job t c options cancelled now ids w).1, Timely o.result) := by
  refine ⟨fun timelineDuration durationOf => ⟨?_, ?_⟩, fun ω c inputs options now ids w => ?_,
    quickProject_timely t, fun ω job c options cancelled now ids w => ?_⟩
  · exact Timeline.accounted_resolve t timelineDuration durationOf
  · intro timeline done track here e member
    exact Template.span?_of_resolve done here member
  · have filled := Template.interpret_punctual t c inputs options now ids w
    have settled := Template.interpretWithRules_punctual t c inputs options now ids w
    exact ⟨⟨filled, settled⟩, fun fail => ⟨filled.timely fail, settled.timely fail⟩⟩
  · have rows := run_punctual job t c options cancelled now ids w
    refine ⟨rows, fun fail o member f failed premature => ?_⟩
    obtain ⟨_, _, raised⟩ := rows o member f failed premature
    exact raised.holds fail premature

/-- A prelude that needs the theme twice, since it is placed relative to it and lasts until it starts,
the theme, and a coda that fills the rest of the timeline. -/
def suite : Template Float :=
  let prelude : Template.Element Float :=
    { id := "prelude", name := "Prelude", timing := .relative "theme" (-2.0) .start
      duration := .fillGap none, content := .fixed (some "Prelude") none }
  let theme : Template.Element Float :=
    { id := "theme", name := "Theme", timing := .absolute 5.0, duration := .fixed 3.0
      content := .fixed (some "Theme") none }
  let coda : Template.Element Float :=
    { id := "coda", name := "Coda", timing := .relative "theme" 0.0 .finish
      duration := .fillGap none, content := .fixed (some "Coda") none }
  let text : Template.Track Float :=
    { id := "text", name := "Text", kind := .text, role := .title
      elements := [prelude, theme, coda] }
  { (Template.new "suite" "Suite" .landscape ⟨0, 0⟩ : Template Float) with tracks := [text] }

theorem accounted_suite :
    Timeline.Accounted suite none (fun e => .ok (Timeline.hintedDuration e)) ∧
      (Timeline.Progress.initial (Timeline.nodes suite) none).pending = [2, 0, 1] ∧
      Timeline.dependents (Timeline.nodes suite) 1 = [0, 0, 2] ∧
      Timely (suite.interpret .none [] {} ⟨0, 0⟩ ⟨Nat.repr, 0⟩ ()).1 ∧
      Timely (quickProject suite [] "Suite" ⟨0, 0⟩ ⟨Nat.repr, 0⟩) := by
  obtain ⟨accounted, filled, quick, _⟩ := accounted_timely suite
  have timely : Collaborators.none.FailOnly fun f : Failure Float => ¬ f.Premature :=
    ⟨fun _ (_ : Unit) => .ok _, nofun, nofun⟩
  exact ⟨(accounted _ _).1, by decide, by decide,
    ((filled Unit .none [] {} ⟨0, 0⟩ _ ()).2 timely).1, quick [] "Suite" ⟨0, 0⟩ _⟩

end Batch

end Storyboard
