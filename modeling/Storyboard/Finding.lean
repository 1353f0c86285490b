import Storyboard.Template

/-!
# Findings

What is wrong, or odd, about a template or about the inputs given to it. A finding names the
placeholder or the element that it is about and its cause; the wording of a cause is one function.
-/

namespace Storyboard

/-- The category of a finding. -/
inductive FindingCode where
  | unsupportedVersion
  | duplicateId
  | missingPlaceholder
  | orphanedReference
  | circularReference
  | invalidDuration
  | invalidConstraints
  | invalidDefault
  | unknownOperator
  | unknownCaptionStyle
  | positionOutOfBounds
  | unusedPlaceholder
  | emptyTemplate
  | missingRequired
  | typeMismatch
  | unknownInput
  | durationOutOfRange
  | durationUnknown
  | aspectRatioMismatch
  | formatNotAllowed
  | fileTooLarge
  | textLength
  | valueOutOfRange
  deriving DecidableEq

/-- What an id is the id of. -/
inductive IdOwner where
  | track
  | element
  | placeholder
  | rule
  deriving DecidableEq

/-- Constraints that no input can meet, or that cannot be read. -/
inductive ConstraintFault (τ : Type) where
  | durationBounds (least most : τ)
  | negativeDuration
  | lengthBounds (least most : Nat)
  | valueBounds (least most : Float)
  | aspectRatio (written : String)
  | aspectTolerance
  | noFileSize

/-- Why a finding was made. -/
inductive Cause (τ : Type) where
  | unsupportedVersion (version : String)
  | noTracks
  | duplicateId (owner : IdOwner) (id : String)
  | badConstraint (fault : ConstraintFault τ)
  | wrongDefault (given expected : InputKind)
  | unusedPlaceholder (name : String)
  | unknownPlaceholder (elementName placeholderId : String)
  | badDuration (value : τ)
  | negativeLimit (limit : τ)
  | unknownAudio (placeholderId : String)
  | silentPlaceholder (name : String)
  | unknownCaptionStyle (id : String)
  | offCanvas (x y : τ)
  | unknownAnchor (id : String)
  /-- A chain of elements each of which waits for the next, and the element closing the circle. -/
  | circle (chain : List String) (back : String)
  | unknownOperator (ruleName operator : String)
  | noValue (name : String)
  | noCell (column name : String)
  | wrongKind (expected given : InputKind)
  | unknownInput (placeholderId : String)
  | tooShort (duration least : τ)
  | tooLong (duration most : τ)
  | unknownDuration (fileName : String)
  | aspectRatio (actual target : Float)
  | format (given : String) (allowed : List String)
  | unknownFormat (fileName : String)
  | fileSize (size limit : Nat)
  | textTooShort (length least : Nat)
  | textTooLong (length most : Nat)
  | notFinite (value : Float)
  | belowLeast (value least : Float)
  | aboveMost (value most : Float)

/-- What is wrong, and with what. -/
structure Finding (τ : Type) where
  cause : Cause τ
  placeholderId : Option String := none
  elementId : Option String := none

/-- A finding as it is reported: its category and its wording. -/
structure Issue where
  code : FindingCode
  placeholderId : Option String := none
  elementId : Option String := none
  message : String
  deriving DecidableEq

/-- Findings that stand in the way, and findings that do not. -/
structure Findings (τ : Type) where
  errors : List (Finding τ) := []
  warnings : List (Finding τ) := []

/-- The category of a cause. -/
def Cause.code {τ : Type} : Cause τ → FindingCode
  | unsupportedVersion _ => .unsupportedVersion
  | noTracks => .emptyTemplate
  | duplicateId .. => .duplicateId
  | badConstraint _ => .invalidConstraints
  | wrongDefault .. => .invalidDefault
  | unusedPlaceholder _ => .unusedPlaceholder
  | unknownPlaceholder .. | unknownAudio _ => .missingPlaceholder
  | badDuration _ | negativeLimit _ | silentPlaceholder _ => .invalidDuration
  | unknownCaptionStyle _ => .unknownCaptionStyle
  | offCanvas .. => .positionOutOfBounds
  | unknownAnchor _ => .orphanedReference
  | circle .. => .circularReference
  | unknownOperator .. => .unknownOperator
  | noValue _ | noCell .. => .missingRequired
  | wrongKind .. => .typeMismatch
  | unknownInput _ => .unknownInput
  | tooShort .. | tooLong .. => .durationOutOfRange
  | unknownDuration _ => .durationUnknown
  | aspectRatio .. => .aspectRatioMismatch
  | format .. | unknownFormat _ => .formatNotAllowed
  | fileSize .. => .fileTooLarge
  | textTooShort .. | textTooLong .. => .textLength
  | notFinite _ | belowLeast .. | aboveMost .. => .valueOutOfRange

/-- The word for what an id belongs to. -/
def IdOwner.name : IdOwner → String
  | track => "track"
  | element => "element"
  | placeholder => "placeholder"
  | rule => "rule"

/-- The wording of a fault in constraints. -/
def ConstraintFault.message : ConstraintFault Float → String
  | durationBounds least most =>
    s!"minDuration {Decimal.text least} exceeds maxDuration {Decimal.text most}"
  | negativeDuration => "Duration bounds must not be negative"
  | lengthBounds least most => s!"minLength {least} exceeds maxLength {most}"
  | valueBounds least most =>
    s!"minValue {Decimal.text least} exceeds maxValue {Decimal.text most}"
  | aspectRatio written => s!"Unparseable aspect ratio '{written}'"
  | aspectTolerance => "aspectRatioTolerance must be a non-negative number"
  | noFileSize => "maxFileSize of 0 rejects every file"

/-- The wording of a cause. -/
def Cause.message : Cause Float → String
  | unsupportedVersion version =>
    s!"Unsupported template version '{version}' (expected '{Template.currentVersion}')"
  | noTracks => "Template has no tracks"
  | duplicateId owner id => s!"Duplicate {owner.name} id '{id}'"
  | badConstraint fault => fault.message
  | wrongDefault given expected =>
    s!"Default value is {given.name} but placeholder is {expected.name}"
  | unusedPlaceholder name => s!"Placeholder '{name}' is not used by any element"
  | unknownPlaceholder elementName placeholderId =>
    s!"Element '{elementName}' references unknown placeholder '{placeholderId}'"
  | badDuration value => s!"Fixed duration {Decimal.text value} is invalid"
  | negativeLimit limit => s!"maxDuration {Decimal.text limit} is negative"
  | unknownAudio placeholderId => s!"Duration matches unknown audio placeholder '{placeholderId}'"
  | silentPlaceholder name => s!"Placeholder '{name}' has no duration to match"
  | unknownCaptionStyle id => s!"Unknown caption style '{id}'"
  | offCanvas x y =>
    s!"Position ({Decimal.fixed 1 x}%, {Decimal.fixed 1 y}%) lies outside the canvas"
  | unknownAnchor id => s!"relativeTo references unknown element '{id}'"
  | circle chain back => "Circular timing: " ++ " -> ".intercalate chain ++ " -> " ++ back
  | unknownOperator ruleName operator => s!"Rule '{ruleName}' uses unknown operator '{operator}'"
  | noValue name => s!"Required placeholder '{name}' has no value"
  | noCell column name => s!"column '{column}' has no value for '{name}'"
  | wrongKind expected given => s!"Expected {expected.name} input, got {given.name}"
  | unknownInput placeholderId => s!"Input for unknown placeholder '{placeholderId}'"
  | tooShort duration least =>
    s!"Duration {Decimal.fixed 2 duration}s is shorter than {Decimal.fixed 2 least}s"
  | tooLong duration most =>
    s!"Duration {Decimal.fixed 2 duration}s is longer than {Decimal.fixed 2 most}s"
  | unknownDuration fileName => s!"Duration of '{fileName}' is unknown"
  | aspectRatio actual target =>
    s!"Aspect ratio {Decimal.fixed 3 actual} does not match {Decimal.fixed 3 target}"
  | format given allowed => s!"Format '{given}' is not one of " ++ ", ".intercalate allowed
  | unknownFormat fileName => s!"Format of '{fileName}' could not be determined"
  | fileSize size limit => s!"File is {size} bytes, limit is {limit}"
  | textTooShort length least => s!"Text has {length} characters, minimum is {least}"
  | textTooLong length most => s!"Text has {length} characters, maximum is {most}"
  | notFinite value => s!"{Decimal.text value} is not a finite number"
  | belowLeast value least => s!"{Decimal.text value} is below the minimum {Decimal.text least}"
  | aboveMost value most => s!"{Decimal.text value} is above the maximum {Decimal.text most}"

/-- The report of a finding. -/
def Finding.issue (f : Finding Float) : Issue :=
  { code := f.cause.code
    placeholderId := f.placeholderId
    elementId := f.elementId
    message := f.cause.message }

/-- A report as one line: what it is about, in brackets, and its wording. -/
def Issue.text (i : Issue) : String :=
  match i.placeholderId, i.elementId with
  | some p, _ => s!"[{p}] {i.message}"
  | none, some e => s!"[element {e}] {i.message}"
  | none, none => i.message

namespace Findings

variable {τ : Type}

/-- No finding stands in the way. -/
def isValid (f : Findings τ) : Bool := f.errors.isEmpty

/-- The findings of two checks, one after the other. -/
def append (a b : Findings τ) : Findings τ := ⟨a.errors ++ b.errors, a.warnings ++ b.warnings⟩

instance : Append (Findings τ) := ⟨append⟩

/-- The findings of a list of checks. -/
def join (checks : List (Findings τ)) : Findings τ := checks.foldr append {}

/-- A finding that stands in the way. -/
def error (f : Finding τ) : Findings τ := ⟨[f], []⟩

/-- A finding that does not stand in the way. -/
def warning (f : Finding τ) : Findings τ := ⟨[], [f]⟩

/-- The errors about a placeholder. -/
def errorsFor (f : Findings τ) (placeholderId : String) : List (Finding τ) :=
  f.errors.filter (·.placeholderId == some placeholderId)

end Findings

end Storyboard
