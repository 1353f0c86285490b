import Storyboard.Placeholder.Document
import Storyboard.Proofs.Text.Case
import Storyboard.Proofs.Validation.Acceptance
import Storyboard.Validation

/-!
# Placeholders that can be filled

Constraints without faults do not always leave an input that a placeholder accepts. The format of
a file is known in lower case, so that a list of formats none of which is in lower case admits no
file; and numbers are finite, so that none reaches an infinite bound. Everything else can be met at
once.
-/

namespace Storyboard

/-- What a placeholder whose constraints have no faults still needs for an input of its kind. -/
structure Placeholder.Fillable (p : Placeholder Float) : Prop where
  /-- Where formats are listed for media, one of them is in lower case. -/
  formats : p.kind.isMedia = true → p.constraints.allowedFormats ≠ [] →
    ∃ format ∈ p.constraints.allowedFormats, Text.lower format = format
  /-- A least number above zero is finite. -/
  least : p.kind = .number → ∀ least, p.constraints.minValue = some least →
    Measure.zero < least → least.isFinite = true
  /-- A most number below zero is finite. -/
  most : p.kind = .number → ∀ most, p.constraints.maxValue = some most →
    most < Measure.zero → most.isFinite = true

theorem MediaRef.lower_format {τ : Type} {file : MediaRef τ} {format : String}
    (known : file.format = some format) : Text.lower format = format := by
  obtain ⟨written, -, rfl⟩ := Option.map_eq_some_iff.1 known
  exact Text.lower_lower written

namespace Validation

variable {p : Placeholder Float} {c : Constraints Float}

/-! ## Constraints without faults -/

theorem crossed_eq_none_iff {α : Type} {exceeds : α → α → Bool} {least most : Option α} :
    crossed exceeds least most = none ↔
      ∀ a b, least = some a → most = some b → exceeds a b = false := by
  cases least <;> cases most <;> simp [crossed]

theorem uncrossed_of_free (free : constraintFaults c = []) :
    (∀ least most, c.minLength = some least → c.maxLength = some most → least ≤ most) ∧
      ∀ least most, c.minValue = some least → c.maxValue = some most → ¬ most < least := by
  simp only [constraintFaults, List.append_eq_nil_iff, Option.toList_eq_nil_iff,
    Option.map_eq_none_iff, crossed_eq_none_iff, decide_eq_false_iff_not, not_lt] at free
  obtain ⟨⟨⟨⟨⟨-, lengths⟩, values⟩, -⟩, -⟩, -⟩ := free
  exact ⟨lengths, values⟩

/-! ## Inputs that are accepted -/

theorem exists_file {input : Input Float} (media : input.kind.isMedia = true) :
    ∃ file, input.media? = some file := by
  cases input <;> first | exact ⟨_, rfl⟩ | cases media

/-- Of the formats that are listed one is in lower case, where a file is accepted. -/
theorem exists_lower_of_accepts {input : Input Float} (accepted : p.Accepts input)
    (media : p.kind.isMedia = true) (any : p.constraints.allowedFormats ≠ []) :
    ∃ format ∈ p.constraints.allowedFormats, Text.lower format = format := by
  obtain ⟨file, given⟩ := exists_file (accepted.kind ▸ media)
  obtain ⟨format, member, known⟩ := accepted.format file given any
  exact ⟨format, member, MediaRef.lower_format known⟩

theorem exists_value {input : Input Float} (number : input.kind = .number) :
    ∃ value, input = .number value := by
  cases input <;> first | exact ⟨_, rfl⟩ | cases number

/-- A file of which at most the format is known. -/
def formatOnly (format : Option String) : MediaRef Float :=
  { id := "", name := "", metadata := some { format } }

theorem exists_media (formats : p.constraints.allowedFormats ≠ [] →
    ∃ format ∈ p.constraints.allowedFormats, Text.lower format = format) :
    ∃ file, ∀ input : Input Float, input.media? = some file → input.kind = p.kind →
      p.Accepts input := by
  obtain ⟨format, allowed⟩ : ∃ format, checkFormat p.constraints (formatOnly format) = none := by
    by_cases any : p.constraints.allowedFormats = []
    · exact ⟨none, checkFormat_eq_none_iff.2 fun some => absurd any some⟩
    · obtain ⟨format, member, lower⟩ := formats any
      exact ⟨some format, checkFormat_eq_none_iff.2 fun _ => ⟨format, member, congrArg some lower⟩⟩
  refine ⟨formatOnly format, fun input media kind => ?_⟩
  refine (accepts_media_iff media kind).2 ⟨?_, ?_, allowed, ?_⟩
  · exact checkDuration_eq_nil_iff.2 fun _ => nofun
  · exact checkAspect_eq_none_iff.2 fun _ _ _ => nofun
  · exact checkFileSize_eq_none_iff.2 fun _ _ _ => nofun

theorem exists_text (free : constraintFaults c = []) : ∃ value, checkLength c value = [] := by
  refine ⟨String.ofList (List.replicate (c.minLength.getD 0) 'a'), checkLength_eq_nil_iff.2 ?_⟩
  rw [String.length_ofList, List.length_replicate]
  refine ⟨fun least given => by rw [given, Option.getD_some], fun most given => ?_⟩
  cases least : c.minLength with
  | none => exact Nat.zero_le most
  | some a => exact (uncrossed_of_free free).1 a most least given

theorem exists_number (free : constraintFaults c = [])
    (least : ∀ least, c.minValue = some least → Measure.zero < least → least.isFinite = true)
    (most : ∀ most, c.maxValue = some most → most < Measure.zero → most.isFinite = true) :
    ∃ value, checkValue c value = [] := by
  -- The first bound that is finite is such a value, or zero where neither is.
  have known (a : Float) (finite : a.isFinite = true)
      (low : ∀ least, c.minValue = some least → ¬ a < least)
      (high : ∀ most, c.maxValue = some most → ¬ most < a) : ∃ value, checkValue c value = [] :=
    ⟨a, checkValue_eq_nil_iff.2 ⟨finite, fun bound given => atMost_iff.2 (low bound given),
      fun bound given => atMost_iff.2 (high bound given)⟩⟩
  have irrefl (a : Float) : ¬ a < a := Bool.eq_false_iff.1 (OrderedMeasure.lt_irrefl a)
  by_cases finite : ∃ a, c.minValue = some a ∧ a.isFinite = true
  · obtain ⟨a, bound, finite⟩ := finite
    refine known a finite (fun least given => ?_) fun most given => ?_
    · obtain rfl := Option.some.inj (bound.symm.trans given)
      exact irrefl a
    · exact (uncrossed_of_free free).2 a most bound given
  · have infinite : ∀ a, c.minValue = some a → a.isFinite = false := fun a bound =>
      Bool.eq_false_iff.2 fun yes => finite ⟨a, bound, yes⟩
    have below : ∀ a, c.minValue = some a → ∀ b, ¬ b < a := fun a bound b =>
      Double.not_lt_of_infinite (fun positive => finite ⟨a, bound, least a bound positive⟩)
        (infinite a bound)
    by_cases finite' : ∃ b, c.maxValue = some b ∧ b.isFinite = true
    · obtain ⟨b, bound, finite'⟩ := finite'
      refine known b finite' (fun least given => below least given b) fun most given => ?_
      obtain rfl := Option.some.inj (bound.symm.trans given)
      exact irrefl b
    · refine known Measure.zero (by decide) (fun least given => below least given _)
        fun bound given negative => finite' ⟨bound, given, most bound given negative⟩

/-! ## Fillable placeholders -/

/-- An input that is accepted leaves each of the three needs met. -/
theorem fillable_of_accepts {input : Input Float} (accepted : p.Accepts input) : p.Fillable := by
  constructor
  case formats => exact exists_lower_of_accepts accepted
  case least =>
    intro number least given positive
    obtain ⟨value, rfl⟩ := exists_value (accepted.kind.trans number)
    obtain ⟨finite, within⟩ := accepted.value value rfl
    by_contra infinite
    exact (within.least least given).not_above
      (Double.lt_of_infinite finite positive (Bool.eq_false_iff.2 infinite))
  case most =>
    intro number most given negative
    obtain ⟨value, rfl⟩ := exists_value (accepted.kind.trans number)
    obtain ⟨finite, within⟩ := accepted.value value rfl
    by_contra infinite
    exact (within.most most given).not_above
      (Double.lt_of_infinite_neg finite negative (Bool.eq_false_iff.2 infinite))

/-- An input for each kind of placeholder: a file of the format in lower case, a text of the least
length, the number that is found, or any colour or font. -/
theorem exists_accepts (free : constraintFaults p.constraints = []) (fillable : p.Fillable) :
    ∃ input : Input Float, p.Accepts input := by
  have media (isMedia : p.kind.isMedia = true) := exists_media (fillable.formats isMedia)
  obtain ⟨text, length⟩ := exists_text free
  cases kind : p.kind with
  | video =>
    obtain ⟨file, accepted⟩ := media (by rw [kind]; rfl)
    exact ⟨.video file, accepted _ rfl kind.symm⟩
  | audio =>
    obtain ⟨file, accepted⟩ := media (by rw [kind]; rfl)
    exact ⟨.audio file, accepted _ rfl kind.symm⟩
  | image =>
    obtain ⟨file, accepted⟩ := media (by rw [kind]; rfl)
    exact ⟨.image file, accepted _ rfl kind.symm⟩
  | text =>
    refine ⟨.text text, Iff.mpr (accepts_plain_iff rfl kind.symm) ⟨?_, nofun⟩⟩
    rintro value (same | same) <;> cases same
    exact length
  | transcript =>
    refine ⟨.transcript text, Iff.mpr (accepts_plain_iff rfl kind.symm) ⟨?_, nofun⟩⟩
    rintro value (same | same) <;> cases same
    exact length
  | number =>
    obtain ⟨number, value⟩ := exists_number free (fillable.least kind) (fillable.most kind)
    refine ⟨.number number, Iff.mpr (accepts_plain_iff rfl kind.symm) ⟨by simp, ?_⟩⟩
    rintro other ⟨⟩
    exact value
  | color => exact ⟨.color "", Iff.mpr (accepts_plain_iff rfl kind.symm) (by simp)⟩
  | font => exact ⟨.font "", Iff.mpr (accepts_plain_iff rfl kind.symm) (by simp)⟩

/-- **What makes a placeholder fillable**: where its constraints have no faults there is an input of
its kind without errors just where files may have a format in lower case, and numbers a finite
value. -/
theorem fillable_iff (free : constraintFaults p.constraints = []) :
    (∃ input : Input Float, input.kind = p.kind ∧ (checkInput p input).errors = []) ↔
      p.Fillable := by
  simp only [← accepts_iff]
  constructor
  · rintro ⟨input, accepted⟩
    exact fillable_of_accepts accepted
  · intro fillable
    exact exists_accepts free fillable

/-- A slot for a short film in one of two formats, only one of which is in lower case. -/
def reel : Placeholder Float :=
  { id := "reel", name := "Reel", kind := .video, required := true
    constraints :=
      { minDuration := some 5.0, maxDuration := some 60.0, aspectRatio := some "16:9"
        allowedFormats := ["MOV", "mp4"], maxFileSize := some 1000000 } }

theorem fillable_reel :
    constraintFaults reel.constraints = [] ∧
      ∃ input : Input Float, input.kind = .video ∧ (checkInput reel input).errors = [] := by
  have free : constraintFaults reel.constraints = [] := List.isEmpty_iff.1 (by decide +kernel)
  refine ⟨free, (fillable_iff free).2 ⟨fun _ _ => ⟨"mp4", by decide, by decide +kernel⟩, ?_, ?_⟩⟩
  · exact fun number => by cases number
  · exact fun number => by cases number

/-- A slot whose one format is in capitals, as a document may give it. -/
def shouting : Placeholder Float :=
  { id := "clip", name := "Clip", kind := .video, required := true
    constraints := { allowedFormats := ["MP4"] } }

/-- No file is accepted where the only format is in capitals, although the constraints have no
faults. -/
theorem not_fillable_shouting :
    Constraints.ofJson (.obj [("allowedFormats", .arr [.str "MP4"])]) = some shouting.constraints ∧
      constraintFaults shouting.constraints = [] ∧
      ∀ input : Input Float, input.kind = shouting.kind → (checkInput shouting input).errors ≠ [] := by
  refine ⟨rfl, List.isEmpty_iff.1 (by decide +kernel), fun input kind silent => ?_⟩
  obtain ⟨format, member, lower⟩ :=
    exists_lower_of_accepts (accepts_iff.2 ⟨kind, silent⟩) rfl (List.cons_ne_nil _ _)
  obtain rfl := List.mem_singleton.1 member
  exact absurd lower (by decide +kernel)

end Validation

end Storyboard
