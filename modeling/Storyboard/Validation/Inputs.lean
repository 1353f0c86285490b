import Storyboard.Finding

/-!
# Validation of inputs

Whether inputs meet what the placeholders ask for. A default value counts where no input is given.
Inputs of a wrong kind are only remarked on here, without a look at their constraints.
-/

namespace Storyboard.Validation

variable {τ : Type} [Measure τ]

/-- A value and the least it must be, where it is below. -/
def belowLeast {α : Type} (below : α → α → Bool) (value : α) (least : Option α) : Option α :=
  least.filter fun bound => below value bound

/-- A value and the most it may be, where it is above. -/
def aboveMost {α : Type} (below : α → α → Bool) (value : α) (most : Option α) : Option α :=
  most.filter fun bound => below bound value

/-- What the constraints on durations say to a media file. -/
def checkDuration (p : Placeholder τ) (file : MediaRef τ) : List (Cause τ) × List (Cause τ) :=
  let c := p.constraints
  if p.kind.hasDuration && (c.minDuration.isSome || c.maxDuration.isSome) then
    match file.duration with
    | some d =>
      (((belowLeast Measure.lt d c.minDuration).map fun least => .tooShort d least).toList
        ++ ((aboveMost Measure.lt d c.maxDuration).map fun most => .tooLong d most).toList, [])
    | none => ([], [.unknownDuration file.name])
  else ([], [])

omit [Measure τ] in
/-- What the constraint on the aspect ratio says to a media file. -/
def checkAspect (c : Constraints τ) (file : MediaRef τ) : Option (Cause τ) :=
  match c.targetAspectRatio, file.metadata.bind (·.aspectRatio) with
  | some target, some actual =>
    if c.aspectRatioTolerance.getD defaultAspectTolerance < (actual / target - 1.0).abs then
      some (.aspectRatio actual target)
    else none
  | _, _ => none

omit [Measure τ] in
/-- What the constraint on formats says to a media file. -/
def checkFormat (c : Constraints τ) (file : MediaRef τ) : Option (Cause τ) :=
  if c.allowedFormats.isEmpty then none
  else
    match file.format with
    | some format =>
      if c.allowedFormats.contains format then none else some (.format format c.allowedFormats)
    | none => some (.unknownFormat file.name)

omit [Measure τ] in
/-- What the constraint on the file size says to a media file. -/
def checkFileSize (c : Constraints τ) (file : MediaRef τ) : Option (Cause τ) :=
  match c.maxFileSize, file.metadata.bind (·.sizeBytes) with
  | some limit, some size => if limit < size then some (.fileSize size limit) else none
  | _, _ => none

omit [Measure τ] in
/-- What the constraints on length say to a text. -/
def checkLength (c : Constraints τ) (value : String) : List (Cause τ) :=
  let below (a b : Nat) : Bool := a < b
  ((belowLeast below value.length c.minLength).map fun least =>
      .textTooShort value.length least).toList
    ++ ((aboveMost below value.length c.maxLength).map fun most =>
      .textTooLong value.length most).toList

omit [Measure τ] in
/-- What the constraints on values say to a number. -/
def checkValue (c : Constraints τ) (value : Float) : List (Cause τ) :=
  let below (a b : Float) : Bool := a < b
  (if value.isFinite then [] else [.notFinite value])
    ++ ((belowLeast below value c.minValue).map fun least => .belowLeast value least).toList
    ++ ((aboveMost below value c.maxValue).map fun most => .aboveMost value most).toList

/-- The findings about an input of a placeholder's own kind. -/
def checkInput (p : Placeholder τ) (input : Input τ) : Findings τ :=
  let about (cause : Cause τ) : Finding τ := { cause, placeholderId := some p.id }
  match input with
  | .video file | .audio file | .image file =>
    let (errors, warnings) := checkDuration p file
    { errors := (errors ++ (checkAspect p.constraints file).toList
        ++ (checkFormat p.constraints file).toList
        ++ (checkFileSize p.constraints file).toList).map about
      warnings := warnings.map about }
  | .text value | .transcript value => ⟨(checkLength p.constraints value).map about, []⟩
  | .number value => ⟨(checkValue p.constraints value).map about, []⟩
  | .color _ | .font _ => {}

/-- The findings about the input of a placeholder, or about its absence. -/
def checkFilled (inputs : Inputs τ) (p : Placeholder τ) : Findings τ :=
  match (inputs.get? p.id).or p.default with
  | none =>
    if p.required then .error { cause := .noValue p.name, placeholderId := some p.id } else {}
  | some input =>
    if input.kind == p.kind then checkInput p input
    else .warning { cause := .wrongKind p.kind input.kind, placeholderId := some p.id }

omit [Measure τ] in
/-- Inputs for placeholders that do not exist. -/
def unknownInputs (placeholders : List (Placeholder τ)) (inputs : Inputs τ) : List (Finding τ) :=
  (inputs.keys.filter fun id => !placeholders.any (·.id == id)).map fun id =>
    { cause := .unknownInput id, placeholderId := some id }

/-- The findings about the inputs of a list of placeholders. -/
def inputs (placeholders : List (Placeholder τ)) (inputs : Inputs τ) : Findings τ :=
  .join (placeholders.map (checkFilled inputs)) ++ ⟨[], unknownInputs placeholders inputs⟩

end Storyboard.Validation
