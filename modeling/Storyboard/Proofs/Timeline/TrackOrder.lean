import Storyboard.Proofs.Timeline.Sway

/-!
# The order of the tracks

The timing of a template is a matter of its elements and of which follows which on its track; where
the tracks are listed does not come into it. Only where neither of two gaps whose ends are not given
rests on the other does the work have to choose which one to take first, and takes the one that is
listed first. All that can differ then is what that choice sways.
-/

namespace Storyboard

variable {τ : Type} {t t' : Template τ}

namespace Template

/-! ## Templates with the same tracks -/

theorem stands_perm (perm : t.tracks.Perm t'.tracks) {e : Element τ}
    {next : Option (Element τ)} : t.Stands e next ↔ t'.Stands e next :=
  exists_congr fun _ => and_congr_left fun _ => perm.mem_iff

theorem elements_perm (perm : t.tracks.Perm t'.tracks) : t.elements.Perm t'.elements :=
  perm.flatMap_right _

theorem dependsOn_perm (perm : t.tracks.Perm t'.tracks) : t.DependsOn = t'.DependsOn := by
  ext id needed
  constructor
  · rintro (⟨stands, anchor⟩ | ⟨stands, gap⟩)
    · exact .anchor ((stands_perm perm).1 stands) anchor
    · exact .gap ((stands_perm perm).1 stands) gap
  · rintro (⟨stands, anchor⟩ | ⟨stands, gap⟩)
    · exact .anchor ((stands_perm perm).2 stands) anchor
    · exact .gap ((stands_perm perm).2 stands) gap

theorem openGap_perm (perm : t.tracks.Perm t'.tracks) (timelineDuration : Option τ) :
    t.OpenGap timelineDuration = t'.OpenGap timelineDuration := by
  ext e
  simp only [OpenGap, stands_perm perm]

variable [Measure τ] {timelineDuration : Option τ}
  {durationOf : Element τ → Except (Failure τ) τ} {spans : String → Span τ}

theorem Solves.perm (perm : t.tracks.Perm t'.tracks)
    (solves : t.Solves timelineDuration durationOf spans) :
    t'.Solves timelineDuration durationOf spans := by
  have back : ∀ {e}, e ∈ t'.elements → e ∈ t.elements := (elements_perm perm).mem_iff.2
  exact {
    absolute := fun e member => solves.absolute e (back member)
    relative := fun e member => solves.relative e (back member)
    dynamic := fun e member => solves.dynamic e (back member)
    provisional := fun e member => solves.provisional e (back member)
    known := fun e member => solves.known e (back member)
    gap := fun e next limit stands => solves.gap e next limit ((stands_perm perm).2 stands)
    trailing := fun e limit length stands =>
      solves.trailing e limit length ((stands_perm perm).2 stands) }

omit [Measure τ] in
theorem before_perm (perm : t.tracks.Perm t'.tracks) (timelineDuration : Option τ) :
    t.Before timelineDuration = t'.Before timelineDuration := by
  funext id other
  simp only [Before, RestsOn, openGap_perm perm, dependsOn_perm perm]

theorem endsOf_perm (perm : t.tracks.Perm t'.tracks) (spans : String → Span τ)
    (chosen : String → Prop) : t.endsOf spans chosen = t'.endsOf spans chosen := by
  simp only [endsOf, (elements_perm perm).mem_iff]

theorem GapsRan.perm (perm : t.tracks.Perm t'.tracks) (ran : t.GapsRan timelineDuration spans) :
    t'.GapsRan timelineDuration spans := by
  intro e limit gap fills
  obtain ⟨earlier, before, apart, length⟩ := ran e limit (by rwa [openGap_perm perm]) fills
  refine ⟨earlier, fun f member => ?_, fun f member => ?_, by rwa [← endsOf_perm perm]⟩
  · rw [← before_perm perm]
    exact before f ((elements_perm perm).mem_iff.2 member)
  · rw [RestsOn, ← dependsOn_perm perm]
    exact apart f ((elements_perm perm).mem_iff.2 member)

theorem EarlyEnd.perm (perm : t.tracks.Perm t'.tracks) {g : Element τ} {early : τ}
    (first : t.EarlyEnd timelineDuration spans g early) :
    t'.EarlyEnd timelineDuration spans g early := by
  unfold EarlyEnd at first ⊢
  rwa [← before_perm perm, ← endsOf_perm perm]

theorem Swayed.perm (perm : t.tracks.Perm t'.tracks) {time : SpanTime} {id : String}
    (swayed : t.Swayed timelineDuration spans time id) :
    t'.Swayed timelineDuration spans time id := by
  have listed {e : Element τ} : e ∈ t.elements → e ∈ t'.elements := (elements_perm perm).mem_iff.1
  induction swayed with
  | passed gap fills member apart first later other =>
    rw [openGap_perm perm] at gap
    rw [RestsOn, dependsOn_perm perm] at apart
    exact .passed gap fills (listed member) apart (first.perm perm) later other
  | heeded gap member ahead _ ih =>
    rw [openGap_perm perm] at gap
    rw [before_perm perm] at ahead
    exact .heeded gap (listed member) ahead ih
  | crossed gap fills member apart first later other _ ih =>
    rw [openGap_perm perm] at gap
    rw [RestsOn, dependsOn_perm perm] at apart
    exact .crossed gap fills (listed member) apart (first.perm perm) later other ih
  | anchor member timing _ ih => exact .anchor (listed member) timing ih
  | finish member timing _ ih => exact .finish (listed member) timing ih
  | filled member fills _ ih => exact .filled (listed member) fills ih
  | next stands fills _ ih => exact .next ((stands_perm perm).1 stands) fills ih

/-- What two timelines of a template have in common, in whichever order the tracks are listed. -/
structure Alike (t : Template τ) (a b : String → Span τ) : Prop where
  provisional : ∀ e ∈ t.elements, (b e.id).provisional = (a e.id).provisional
  start : ∀ e ∈ t.elements, e.timing.anchorId? = none → (b e.id).start = (a e.id).start
  duration : ∀ e ∈ t.elements, e.duration.isFillGap = false →
    (b e.id).duration = (a e.id).duration

theorem Solves.alike {a b : String → Span τ} (solvesA : t.Solves timelineDuration durationOf a)
    (solvesB : t.Solves timelineDuration durationOf b) : t.Alike a b := by
  refine ⟨fun e member => ?_, fun e member free => ?_, fun e member fixed => ?_⟩
  · rw [solvesA.provisional e member, solvesB.provisional e member]
  · cases timing : e.timing with
    | absolute start => rw [solvesA.absolute e member _ timing, solvesB.absolute e member _ timing]
    | dynamic hint => rw [solvesA.dynamic e member _ timing, solvesB.dynamic e member _ timing]
    | relative id offset anchor =>
      rw [timing] at free
      cases free
  · exact Except.ok.inj ((solvesB.known e member fixed).symm.trans (solvesA.known e member fixed))

/-- Two timelines have the same starts and lengths, but for what the order of gaps may sway. -/
def Steady (t : Template τ) (timelineDuration : Option τ) (a b : String → Span τ) : Prop :=
  ∀ e ∈ t.elements, ∀ time, ¬ t.Swayed timelineDuration a time e.id →
    (b e.id).get time = (a e.id).get time

theorem Steady.eq {a b : String → Span τ} (steady : t.Steady timelineDuration a b)
    (alike : t.Alike a b) {e : Element τ} (member : e ∈ t.elements)
    (free : ∀ time, ¬ t.Swayed timelineDuration a time e.id) : b e.id = a e.id :=
  Span.ext (steady e member .start (free _)) (steady e member .length (free _))
    (alike.provisional e member)

end Template

namespace Timeline

variable [Measure τ] {timelineDuration : Option τ}
  {durationOf : Template.Element τ → Except (Failure τ) τ}

end Timeline

end Storyboard
