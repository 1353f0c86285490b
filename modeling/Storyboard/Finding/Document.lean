import Storyboard.Finding
import Storyboard.Json.Fields

/-!
# Findings in documents

Reading and writing reports of findings.
-/

namespace Storyboard

open Json

/-- The name of a category. -/
def FindingCode.name : FindingCode → String
  | unsupportedVersion => "unsupported_version"
  | duplicateId => "duplicate_id"
  | missingPlaceholder => "missing_placeholder"
  | orphanedReference => "orphaned_reference"
  | circularReference => "circular_reference"
  | invalidDuration => "invalid_duration"
  | invalidConstraints => "invalid_constraints"
  | invalidDefault => "invalid_default"
  | unknownOperator => "unknown_operator"
  | unknownCaptionStyle => "unknown_caption_style"
  | positionOutOfBounds => "position_out_of_bounds"
  | unusedPlaceholder => "unused_placeholder"
  | emptyTemplate => "empty_template"
  | missingRequired => "missing_required"
  | typeMismatch => "type_mismatch"
  | unknownInput => "unknown_input"
  | durationOutOfRange => "duration_out_of_range"
  | durationUnknown => "duration_unknown"
  | aspectRatioMismatch => "aspect_ratio_mismatch"
  | formatNotAllowed => "format_not_allowed"
  | fileTooLarge => "file_too_large"
  | textLength => "text_length"
  | valueOutOfRange => "value_out_of_range"

/-- The names of categories. -/
def FindingCode.names : List (String × FindingCode) :=
  [FindingCode.unsupportedVersion, .duplicateId, .missingPlaceholder, .orphanedReference,
    .circularReference, .invalidDuration, .invalidConstraints, .invalidDefault, .unknownOperator,
    .unknownCaptionStyle, .positionOutOfBounds, .unusedPlaceholder, .emptyTemplate,
    .missingRequired, .typeMismatch, .unknownInput, .durationOutOfRange, .durationUnknown,
    .aspectRatioMismatch, .formatNotAllowed, .fileTooLarge, .textLength, .valueOutOfRange].map
    fun code => (code.name, code)

/-- A report as a document. -/
def Issue.toJson (i : Issue) : Json :=
  .obj <|
    [("code", .str i.code.name)] ++ opt "placeholderId" .str i.placeholderId
    ++ opt "elementId" .str i.elementId ++ [("message", .str i.message)]

/-- A report from a document. -/
def Issue.ofJson : Reader Issue := fun v => do
  let fields ← asRecord ["code", "placeholderId", "elementId", "message"] v
  return {
    code := ← fetch fields "code" (asNamed FindingCode.names)
    placeholderId := ← fetch? fields "placeholderId" asText
    elementId := ← fetch? fields "elementId" asText
    message := ← fetch fields "message" asText }

/-- Reports of errors and of warnings. -/
structure Issues where
  errors : List Issue
  warnings : List Issue
  deriving DecidableEq

/-- The reports of findings. -/
def Findings.issues (f : Findings Float) : Issues :=
  ⟨f.errors.map (·.issue), f.warnings.map (·.issue)⟩

/-- The fields of reports in writing. -/
def Issues.fields (i : Issues) : List (String × Json) :=
  [("errors", list Issue.toJson i.errors), ("warnings", list Issue.toJson i.warnings)]

/-- Reports from a document. -/
def Issues.ofJson : Reader Issues := fun v => do
  let fields ← asRecord ["errors", "warnings"] v
  return {
    errors := ← fetch fields "errors" (asList Issue.ofJson)
    warnings := ← fetch fields "warnings" (asList Issue.ofJson) }

end Storyboard
