import Storyboard.Proofs.Interpretation.Limits
import Storyboard.Proofs.Interpretation.Preparation
import Storyboard.Proofs.Validation.Report

/-!
# Durations are not negative

Validation sees to it that the lengths and limits that a template gives are not negative, and a gap
is floored at zero before its limit. All other lengths are those of media and those that were
recorded, so that a valid template lasts for no negative time anywhere as long as these do not.
-/

namespace Storyboard

open Storyboard.Measure (isNaN zero le lt capAt)

variable {τ ω : Type} [Measure τ]

/-! ## Lengths that are known -/

/-- The length of a file, where it is known, is not negative. -/
def MediaRef.Lasting (file : MediaRef τ) : Prop := ∀ d, file.duration = some d → le zero d = true

/-- So is that of the file of an input. -/
def Input.Lasting (input : Input τ) : Prop := ∀ file, input.media? = some file → file.Lasting

/-- What is found out about a file gives it no negative length. -/
def Collaborators.Lasting (c : Collaborators τ ω) : Prop :=
  ∀ file w found w', c.probe file w = (.ok (some found), w') →
    ∀ d, found.duration = some d → le zero d = true

namespace Template

/-- The length that was recorded for an element when the template was made. -/
def Duration.hint? : Duration τ → Option τ
  | .content _ hint | .matchAudio _ hint => hint
  | _ => none

/-- What a template has recorded of lengths is not negative: the hints of its elements, and the
lengths of the files that it holds. -/
structure Lasting (t : Template τ) : Prop where
  hints : ∀ e ∈ t.elements, ∀ hint, e.duration.hint? = some hint → le zero hint = true
  files : ∀ e ∈ t.elements, ∀ text file, e.content = .fixed text (some file) → file.Lasting
  defaults : ∀ p ∈ t.placeholders, ∀ input, p.default = some input → input.Lasting

variable {t : Template τ} {c : Collaborators τ ω} {inputs : Inputs τ}

/-! ## Prepared inputs -/

theorem lasting_withDefaults (lasting : t.Lasting) (given : ∀ entry ∈ inputs, entry.2.Lasting) :
    ∀ entry ∈ t.withDefaults inputs, entry.2.Lasting := by
  rintro ⟨id, input⟩ member
  rcases Keyed.mem_foldl_insert member with added | before
  · obtain ⟨_, p, inside, _, default⟩ := mem_defaulted.1 added
    exact lasting.defaults p inside input default
  · exact given _ before

theorem lasting_probeInput (promise : c.Lasting) {input after : Input τ} {w w' : ω}
    (given : input.Lasting) (done : probeInput c input w = (.ok after, w')) : after.Lasting := by
  unfold probeInput at done
  split at done
  · cases done
    exact given
  · next file asked =>
    split at done
    · cases done
    · cases done
      exact given
    · next found _ answered =>
      cases done
      rintro file' media d known
      have taken : ∃ before : MediaRef τ, file' = { before with metadata := some found } := by
        cases input <;> cases media <;> exact ⟨_, rfl⟩
      obtain ⟨before, rfl⟩ := taken
      exact promise _ _ _ _ answered d known

theorem lasting_probeInputs (promise : c.Lasting) {after : Inputs τ} {w w' : ω}
    (given : ∀ entry ∈ inputs, entry.2.Lasting)
    (done : probeInputs c inputs w = (.ok after, w')) : ∀ entry ∈ after, entry.2.Lasting := by
  induction inputs generalizing after w with
  | nil =>
    cases done
    exact given
  | cons entry rest ih =>
    obtain ⟨id, input⟩ := entry
    unfold probeInputs at done
    split at done
    · cases done
    · next first =>
      split at done
      · cases done
      · next later =>
        cases done
        refine List.forall_mem_cons.2 ⟨?_, ?_⟩
        · exact lasting_probeInput promise (given _ List.mem_cons_self) first
        · exact ih (fun entry member => given entry (List.mem_cons_of_mem _ member)) later

theorem lasting_prepare (lasting : t.Lasting) (promise : c.Lasting)
    (given : ∀ entry ∈ inputs, entry.2.Lasting) {prepared : Prepared τ} {w : ω}
    (done : (t.prepare c inputs w).1 = .ok prepared) {id : String} {input : Input τ}
    (value : prepared.inputs.get? id = some input) : input.Lasting := by
  unfold prepare at done
  split at done
  · cases done
  · next probed =>
    cases done
    exact lasting_probeInputs promise (lasting_withDefaults lasting given) probed _
      (Keyed.mem_of_get? value)

/-! ## Valid templates -/

/-- In a valid template nothing is wrong with any duration. -/
theorem durationFault?_of_isValid (valid : t.isValid = true) {e : Element τ}
    (member : e ∈ t.elements) : Validation.durationFault? t e = none := by
  have none := Findings.isValid_iff.1 valid
  rw [errors_validate] at none
  simp only [List.append_eq_nil_iff, List.flatMap_eq_nil_iff] at none
  have silent := none.1.1.2 e member
  simpa [Validation.checkElement] using silent

theorem limit_of_isValid (valid : t.isValid = true) {e : Element τ} (member : e ∈ t.elements)
    {limit : τ} (limited : e.duration.limit? = some limit) : lt limit zero = false := by
  have fault := durationFault?_of_isValid valid member
  unfold Validation.durationFault? at fault
  cases duration : e.duration with
  | fixed | matchAudio => simp [duration, Duration.limit?] at limited
  | content most _ | fillGap most =>
    rw [duration] at limited fault
    obtain rfl : most = some limit := limited
    simpa using fault

theorem fixed_of_isValid [LinearMeasure τ] (valid : t.isValid = true) {e : Element τ}
    (member : e ∈ t.elements) {length : τ} (fixed : e.duration = .fixed length) :
    le zero length = true := by
  have fault := durationFault?_of_isValid valid member
  unfold Validation.durationFault? at fault
  rw [fixed] at fault
  obtain ⟨notBelow, finite⟩ : lt length zero = false ∧ Measure.isFinite length = true := by
    simpa using fault
  exact Measure.zero_le_of_not_lt (LinearMeasure.isNaN_of_isFinite finite) notBelow

/-! ## Lengths of elements -/

/-- No element lasts for a negative time, where the lengths of media are none. -/
theorem Element.Lasts.nonneg [LinearMeasure τ] (valid : t.isValid = true) (lasting : t.Lasting)
    (given : ∀ id input, inputs.get? id = some input → input.Lasting) {e : Element τ}
    (member : e ∈ t.elements) {length : τ} (lasts : e.Lasts inputs length) :
    le zero length = true := by
  have some : le zero (zero : τ) = true := Measure.le_refl_of_number LinearMeasure.isNaN_zero
  cases lasts with
  | fixed fixed => exact fixed_of_isValid valid member fixed
  | content content plays known =>
    refine Measure.zero_le_capAt (fun m binds => limit_of_isValid valid member ?_) ?_
    · rw [content]
      exact binds
    · cases plays with
      | own own => exact lasting.files e member _ _ own _ known
      | input _ value media => exact given _ _ value _ media _ known
  | @recorded limit hint content _ =>
    cases hint with
    | none => exact some
    | some hint => exact lasting.hints e member hint (by rw [content]; rfl)
  | audio _ value media known => exact given _ _ value _ media _ known
  | gap _ => exact some

end Template

namespace Timeline

variable [LinearMeasure τ] {t : Template τ} {timelineDuration : Option τ}
  {durationOf : Template.Element τ → Except (Failure τ) τ}

/-- No element of the timeline of a valid template lasts for a negative time if none is given one:
a gap is floored at zero before its limit. -/
theorem nonneg_of_resolve (valid : t.isValid = true)
    (known : ∀ e ∈ t.elements, ∀ length, durationOf e = .ok length → le zero length = true)
    {timeline : Timeline τ} (done : resolve t timelineDuration durationOf = .ok timeline) :
    ∀ entry ∈ timeline, le zero entry.2.duration = true := by
  obtain ⟨spans, rfl, _, lengths⟩ := lengths_of_resolve done
  intro entry listed
  obtain ⟨e, member, rfl⟩ := List.mem_map.1 listed
  rcases lengths e member with ⟨limit, fills, left, lasts⟩ | ⟨_, given⟩
  · refine lasts ▸ Measure.zero_le_capAt (fun m binds => ?_) (Measure.zero_le_nonneg left)
    refine Template.limit_of_isValid valid member ?_
    rw [fills]
    exact binds
  · exact known e member _ given

theorem hintedDuration_nonneg (valid : t.isValid = true) (lasting : t.Lasting)
    {e : Template.Element τ} (member : e ∈ t.elements) : le zero (hintedDuration e) = true := by
  have some : le zero (zero : τ) = true := Measure.le_refl_of_number LinearMeasure.isNaN_zero
  have recorded : le zero (e.duration.hint?.getD zero) = true := by
    cases hint : e.duration.hint? with
    | none => exact some
    | some hint' => exact lasting.hints e member hint' hint
  unfold hintedDuration
  cases duration : e.duration with
  | fixed length => exact Template.fixed_of_isValid valid member duration
  | content limit hint =>
    rw [duration] at recorded
    refine Measure.zero_le_capAt (fun m binds => Template.limit_of_isValid valid member ?_) recorded
    rw [duration]
    exact binds
  | matchAudio named hint =>
    rw [duration] at recorded
    exact recorded
  | fillGap => exact some

/-- **Durations are not negative**: as long as the lengths of media and the recorded ones are not
negative, no element of the timeline of a valid template lasts for a negative time, neither when it
is filled with inputs nor by the recorded lengths. -/
theorem resolve_lasting (t : Template τ) (valid : t.isValid = true) (lasting : t.Lasting) :
    (∀ (c : Collaborators τ ω) inputs options w prepared timeline, c.Lasting →
      (∀ entry ∈ inputs, entry.2.Lasting) → (t.prepare c inputs w).1 = .ok prepared →
      resolve t options.timelineDuration (Template.durationOf prepared.inputs options) =
        .ok timeline → ∀ entry ∈ timeline, le zero entry.2.duration = true) ∧
    ∀ timelineDuration timeline, hinted t timelineDuration = .ok timeline →
      ∀ entry ∈ timeline, le zero entry.2.duration = true := by
  constructor
  · intro c inputs options w prepared timeline promise given ready done
    refine nonneg_of_resolve valid (fun e member length known => ?_) done
    have inputs' id input (value : prepared.inputs.get? id = some input) : input.Lasting :=
      Template.lasting_prepare lasting promise given ready value
    exact (Template.lasts_of_durationOf known).nonneg valid lasting inputs' member
  · intro timelineDuration timeline done
    refine nonneg_of_resolve valid (fun e member length known => ?_) done
    cases known
    exact hintedDuration_nonneg valid lasting member

end Timeline

/-- A scene under a limit, an end title that fills up to a limit of its own, and music for as long
as it plays. -/
def Template.slides : Template Float :=
  let scene : Element Float :=
    { id := "scene", name := "Scene", timing := .absolute 0.0
      duration := .content (some 5.0) none, content := .placeholder "clip" }
  let ending : Element Float :=
    { id := "ending", name := "Ending", timing := .relative "scene" 0.0 .finish
      duration := .fillGap (some 3.0), content := .fixed (some "The end") none }
  let song : Element Float :=
    { id := "song", name := "Song", timing := .absolute 0.0
      duration := .matchAudio (some "music") (some 20.0), content := .placeholder "music" }
  let pictures : Track Float :=
    { id := "pictures", name := "Pictures", kind := .media, role := .mainVideo
      elements := [scene] }
  let titles : Track Float :=
    { id := "titles", name := "Titles", kind := .text, role := .title, elements := [ending] }
  let sound : Track Float :=
    { id := "sound", name := "Sound", kind := .audio, role := .backgroundMusic, elements := [song] }
  let music : MediaRef Float :=
    { id := "m0", name := "Music", metadata := some { duration := some 30.0 } }
  { (Template.new "slides" "Slides" .landscape ⟨0, 0⟩ : Template Float) with
    placeholders := [{ id := "clip", name := "Clip", kind := .video },
      { id := "music", name := "Music", kind := .audio, default := some (.audio music) }]
    tracks := [pictures, titles, sound] }

namespace Timeline

open Template (slides)

/-- Finds that every file lasts for eight seconds. -/
def eight : Collaborators Float Unit :=
  ⟨fun _ w => (.ok (some { duration := some 8.0 }), w), none, []⟩

theorem resolve_slides :
    slides.isValid = true ∧ slides.Lasting ∧ eight.Lasting ∧
      (∃ prepared timeline,
        (slides.prepare eight [("clip", .video { id := "m1", name := "Clip" })] ()).1 =
          .ok prepared ∧
        resolve slides none (Template.durationOf prepared.inputs {}) = .ok timeline ∧
        ∀ entry ∈ timeline, le zero entry.2.duration = true) ∧
      ∃ timeline, hinted slides none = .ok timeline ∧
        ∀ entry ∈ timeline, le zero entry.2.duration = true := by
  have valid : slides.isValid = true := by decide
  have hints : ∀ e ∈ slides.elements, ∀ hint ∈ e.duration.hint?, le zero hint = true := by decide
  have lasting : slides.Lasting := by
    refine ⟨hints, fun e member => ?_, fun p member => ?_⟩
    · simp only [slides, Template.elements, List.flatMap_cons, List.flatMap_nil, List.append_nil,
        List.cons_append, List.nil_append, List.mem_cons, List.not_mem_nil, or_false] at member
      rcases member with rfl | rfl | rfl <;> rintro _ _ ⟨⟩
    · simp only [slides, List.mem_cons, List.not_mem_nil, or_false] at member
      rcases member with rfl | rfl
      · rintro _ ⟨⟩
      · rintro _ ⟨⟩ _ ⟨⟩ _ ⟨⟩
        decide
  have promise : eight.Lasting := by
    rintro _ _ _ _ ⟨⟩ _ ⟨⟩
    decide
  have ordered : slides.orderedPlaceholders = slides.placeholders :=
    List.mergeSort_of_pairwise (by decide)
  obtain ⟨prepared, timeline, ready, done⟩ : ∃ prepared timeline,
      (slides.prepare eight [("clip", .video { id := "m1", name := "Clip" })] ()).1 =
        .ok prepared ∧
      resolve slides none (Template.durationOf prepared.inputs {}) = .ok timeline := by
    rw [Template.prepare, Template.withDefaults, Template.given, Template.defaulted, ordered]
    exact ⟨_, _, rfl, rfl⟩
  obtain ⟨filled, recorded⟩ := resolve_lasting slides valid lasting
  refine ⟨valid, lasting, promise, ⟨prepared, timeline, ready, done, ?_⟩, _, rfl,
    recorded none _ rfl⟩
  refine filled eight _ {} () _ _ promise ?_ ready done
  intro entry member
  obtain rfl := List.mem_singleton.1 member
  rintro _ ⟨⟩ _ ⟨⟩

end Timeline

end Storyboard
