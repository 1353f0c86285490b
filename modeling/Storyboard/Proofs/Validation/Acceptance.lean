import Storyboard.Proofs.Double.Order
import Storyboard.Proofs.Validation.Report
import Storyboard.Validation.Inputs

/-!
# Accepted inputs

What a placeholder asks of its value, said apart from the checks: the kind, the length of a text, the
size of a number, and of a media file the duration, the aspect ratio, the format and the size in
bytes. The checks of an input are silent exactly where the placeholder accepts it.
-/

namespace Storyboard

/-! ## Bounds -/

/-- One double is at most another: it does not lie above it, and where both are numbers it lies below
or at it. -/
structure AtMost (a b : Float) : Prop where
  not_above : ¬ b < a
  le : a.isNaN = false → b.isNaN = false → a ≤ b

theorem atMost_iff {a b : Float} : AtMost a b ↔ ¬ b < a :=
  ⟨AtMost.not_above, fun not =>
    ⟨not, fun numberA numberB => Double.le_of_not_lt numberA numberB (Bool.eq_false_iff.2 not)⟩⟩

/-- A double lies between two bounds, either of which may be absent. -/
structure Within (least most : Option Float) (a : Float) : Prop where
  least : ∀ bound, least = some bound → AtMost bound a
  most : ∀ bound, most = some bound → AtMost a bound

namespace Placeholder

/-- A placeholder accepts an input: it is of its kind and meets its constraints. -/
structure Accepts (p : Placeholder Float) (input : Input Float) : Prop where
  kind : input.kind = p.kind
  /-- The count of characters lies between the bounds on it. -/
  length : ∀ value, input = .text value ∨ input = .transcript value →
    (∀ least, p.constraints.minLength = some least → least ≤ value.length) ∧
      ∀ most, p.constraints.maxLength = some most → value.length ≤ most
  /-- A number is finite and lies between the bounds on it. -/
  value : ∀ value, input = .number value →
    value.isFinite = true ∧ Within p.constraints.minValue p.constraints.maxValue value
  /-- The duration of a video or audio file lies between the bounds on it, where it is known. -/
  duration : ∀ file d, input = .video file ∨ input = .audio file → file.duration = some d →
    Within p.constraints.minDuration p.constraints.maxDuration d
  /-- The aspect ratio deviates from its target by the tolerance at most, where it is known. -/
  aspect : ∀ file target actual, input.media? = some file →
    p.constraints.targetAspectRatio = some target → file.metadata.bind (·.aspectRatio) = some actual →
    AtMost (actual / target - 1.0).abs
      (p.constraints.aspectRatioTolerance.getD defaultAspectTolerance)
  /-- Where formats are listed, the format is known and one of them. -/
  format : ∀ file, input.media? = some file → p.constraints.allowedFormats ≠ [] →
    ∃ format ∈ p.constraints.allowedFormats, file.format = some format
  /-- The size in bytes does not lie above its limit, where it is known. -/
  size : ∀ file limit size, input.media? = some file → p.constraints.maxFileSize = some limit →
    file.metadata.bind (·.sizeBytes) = some size → size ≤ limit

end Placeholder

/-! ## The checks -/

namespace Validation

variable {p : Placeholder Float} {c : Constraints Float} {file : MediaRef Float}

theorem belowLeast_eq_none_iff {α : Type} {below : α → α → Bool} {value : α} {least : Option α} :
    belowLeast below value least = none ↔
      ∀ bound, least = some bound → below value bound = false := by
  cases least <;> simp [belowLeast, Option.filter_eq_none_iff]

theorem aboveMost_eq_none_iff {α : Type} {below : α → α → Bool} {value : α} {most : Option α} :
    aboveMost below value most = none ↔
      ∀ bound, most = some bound → below bound value = false := by
  cases most <;> simp [aboveMost, Option.filter_eq_none_iff]

theorem within_iff {least most : Option Float} {a : Float} :
    Within least most a ↔
      belowLeast Measure.lt a least = none ∧ aboveMost Measure.lt a most = none := by
  rw [belowLeast_eq_none_iff, aboveMost_eq_none_iff]
  simp only [← Bool.not_eq_true]
  constructor
  · intro within
    exact ⟨fun bound given => (within.least bound given).not_above,
      fun bound given => (within.most bound given).not_above⟩
  · rintro ⟨least, most⟩
    exact ⟨fun bound given => atMost_iff.2 (least bound given),
      fun bound given => atMost_iff.2 (most bound given)⟩

/-- Durations are checked for media that play for some time. -/
theorem checkDuration_eq_nil_iff :
    (checkDuration p file).1 = [] ↔
      (p.kind.hasDuration = true → ∀ d, file.duration = some d →
        Within p.constraints.minDuration p.constraints.maxDuration d) := by
  simp only [checkDuration]
  by_cases plays : p.kind.hasDuration = true
  · by_cases bounded : p.constraints.minDuration.isSome || p.constraints.maxDuration.isSome
    · rw [if_pos (by simp [plays, bounded])]
      cases file.duration <;> simp [plays, within_iff]
    · -- Without bounds nothing is checked, and every duration lies between them.
      rw [if_neg (by simp [bounded])]
      simp only [Bool.or_eq_true, not_or, Option.not_isSome_iff_eq_none] at bounded
      simp [within_iff, bounded, belowLeast, aboveMost]
  · simp [plays]

theorem checkAspect_eq_none_iff :
    checkAspect c file = none ↔
      ∀ target actual, c.targetAspectRatio = some target →
        file.metadata.bind (·.aspectRatio) = some actual →
        AtMost (actual / target - 1.0).abs
          (c.aspectRatioTolerance.getD defaultAspectTolerance) := by
  unfold checkAspect
  cases c.targetAspectRatio <;> cases file.metadata.bind (·.aspectRatio) <;> simp [atMost_iff]

theorem checkFormat_eq_none_iff :
    checkFormat c file = none ↔
      (c.allowedFormats ≠ [] → ∃ format ∈ c.allowedFormats, file.format = some format) := by
  unfold checkFormat
  by_cases empty : c.allowedFormats = []
  · simp [empty]
  · rw [if_neg (by simpa using empty)]
    cases file.format <;> simp [empty, eq_comm]

theorem checkFileSize_eq_none_iff :
    checkFileSize c file = none ↔
      ∀ limit size, c.maxFileSize = some limit → file.metadata.bind (·.sizeBytes) = some size →
        size ≤ limit := by
  unfold checkFileSize
  cases c.maxFileSize <;> cases file.metadata.bind (·.sizeBytes) <;> simp

theorem checkLength_eq_nil_iff {value : String} :
    checkLength c value = [] ↔
      (∀ least, c.minLength = some least → least ≤ value.length) ∧
        ∀ most, c.maxLength = some most → value.length ≤ most := by
  simp [checkLength, belowLeast_eq_none_iff, aboveMost_eq_none_iff]

theorem checkValue_eq_nil_iff {value : Float} :
    checkValue c value = [] ↔ value.isFinite = true ∧ Within c.minValue c.maxValue value := by
  have below : (fun a b : Float => decide (a < b)) = Measure.lt := by
    funext a b
    exact Bool.decide_eq_true
  simp only [checkValue, below, within_iff]
  cases value.isFinite <;> simp

/-- A placeholder accepts a media file of its kind where the four checks of the file are silent. -/
theorem accepts_media_iff {input : Input Float} (media : input.media? = some file)
    (kind : input.kind = p.kind) :
    p.Accepts input ↔ (checkDuration p file).1 = [] ∧ checkAspect p.constraints file = none ∧
      checkFormat p.constraints file = none ∧ checkFileSize p.constraints file = none := by
  have plays : p.kind.hasDuration = true ↔ input = .video file ∨ input = .audio file := by
    rw [← kind]
    cases input <;> cases media <;> simp [Input.kind, InputKind.hasDuration]
  rw [checkDuration_eq_nil_iff, checkAspect_eq_none_iff, checkFormat_eq_none_iff,
    checkFileSize_eq_none_iff]
  constructor
  · intro accepted
    exact ⟨fun timed d => accepted.duration file d (plays.1 timed),
      fun target actual => accepted.aspect file target actual media, accepted.format file media,
      fun limit size => accepted.size file limit size media⟩
  · rintro ⟨duration, aspect, format, size⟩
    have only : ∀ other, input.media? = some other → other = file := fun other same =>
      Option.some.inj (same.symm.trans media)
    refine ⟨kind, ?_, ?_, ?_, ?_, ?_, ?_⟩
    · rintro value (rfl | rfl) <;> cases media
    · rintro value rfl
      cases media
    · intro other d timed
      obtain rfl := only other (by rcases timed with rfl | rfl <;> rfl)
      exact duration (plays.2 timed) d
    · intro other target actual same
      obtain rfl := only other same
      exact aspect target actual
    · intro other same
      obtain rfl := only other same
      exact format
    · intro other limit bytes same
      obtain rfl := only other same
      exact size limit bytes

/-- Of what is no media file only the length and the size of a number count. -/
theorem accepts_plain_iff {input : Input Float} (plain : input.media? = none)
    (kind : input.kind = p.kind) :
    p.Accepts input ↔
      (∀ value, input = .text value ∨ input = .transcript value →
        checkLength p.constraints value = []) ∧
      ∀ value, input = .number value → checkValue p.constraints value = [] := by
  simp only [checkLength_eq_nil_iff, checkValue_eq_nil_iff]
  refine ⟨fun accepted => ⟨accepted.length, accepted.value⟩, fun ⟨length, value⟩ =>
    ⟨kind, length, value, ?_, ?_, ?_, ?_⟩⟩
  · rintro file d (rfl | rfl) <;> cases plain
  all_goals simp [plain]

/-- The checks of an input of a placeholder's kind are silent where the placeholder accepts it. -/
theorem accepts_iff {input : Input Float} :
    p.Accepts input ↔ input.kind = p.kind ∧ (checkInput p input).errors = [] := by
  suffices ∀ kind : input.kind = p.kind, p.Accepts input ↔ (checkInput p input).errors = [] from
    ⟨fun accepted => ⟨accepted.kind, (this accepted.kind).1 accepted⟩,
      fun ⟨kind, silent⟩ => (this kind).2 silent⟩
  intro kind
  cases input with
  | video file => simp [accepts_media_iff rfl kind, checkInput]
  | audio file => simp [accepts_media_iff rfl kind, checkInput]
  | image file => simp [accepts_media_iff rfl kind, checkInput]
  | text value => simp [accepts_plain_iff rfl kind, checkInput]
  | transcript value => simp [accepts_plain_iff rfl kind, checkInput]
  | number value => simp [accepts_plain_iff rfl kind, checkInput]
  | color value => simp [accepts_plain_iff rfl kind, checkInput]
  | font value => simp [accepts_plain_iff rfl kind, checkInput]

end Validation

end Storyboard
