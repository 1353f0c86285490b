import Storyboard.Finding

/-!
# Failures

Why something could not be done. Each failure is a cause with what it is about; the wording is one
function per kind of cause.
-/

namespace Storyboard

/-- Why a project cannot be made into a template. -/
inductive ExtractionFault where
  | noTracks
  | noCanvas (projectName : String)
  | unknownMedia (elementName mediaId : String)
  deriving DecidableEq

/-- Why the timing of an element cannot be worked out. -/
inductive TimingFault where
  | duplicateId
  | unknownAnchor (id : String)
  /-- The element waits, directly or through others, for itself or for such an element. -/
  | circular
  | anchorPending
  | nextPending
  | missing
  deriving DecidableEq

/-- Which media duration is not known. -/
inductive DurationFault where
  | content
  | noAudio
  | audio (placeholderId : String)
  deriving DecidableEq

/-- Why something outside the template could not be looked up. -/
inductive LookupFault where
  | probe (mediaName : String)
  | transcript (key : String)
  | noTranscripts
  /-- A reason in the words of whoever was asked. -/
  | told (reason : String)
  deriving DecidableEq

/-- What an input was expected to be. -/
inductive Expected where
  | kind (kind : InputKind)
  | contentOf (track : TrackKind)
  deriving DecidableEq

/-- What an input was instead. -/
inductive Actual where
  | kind (kind : InputKind)
  | cell (value : String)
  deriving DecidableEq

/-- Why a text is not a template document, or an id not the name of one. -/
inductive FormatFault where
  | malformed
  | unsupportedVersion (version : String)
  | missingVersion
  | shape
  | emptyId
  | unsafeId (id : String)
  deriving DecidableEq

/-- Why something could not be done. -/
inductive Failure (τ : Type) where
  | extraction (fault : ExtractionFault)
  | inputs (findings : List (Finding τ))
  | timing (elementId : String) (fault : TimingFault)
  | unknownDuration (elementId : String) (fault : DurationFault)
  | wrongInput (placeholderId : String) (expected : Expected) (actual : Actual)
  | noSegment (elementId : String) (index available : Nat)
  | unknownGenerator (name : String)
  | lookup (fault : LookupFault)
  | format (fault : FormatFault)
  | unknownOperator (ruleId operator : String)
  | storage

/-- The wording of an extraction fault. -/
def ExtractionFault.message : ExtractionFault → String
  | noTracks => "project has no tracks"
  | noCanvas projectName => s!"project '{projectName}' has no canvas settings"
  | unknownMedia elementName mediaId =>
    s!"element '{elementName}' references unknown media file '{mediaId}'"

/-- The wording of a timing fault. -/
def TimingFault.message : TimingFault → String
  | duplicateId => "duplicate element id"
  | unknownAnchor id => s!"relativeTo references unknown element '{id}'"
  | circular => "circular timing dependency"
  | anchorPending => "anchor was not resolved"
  | nextPending => "next element was not resolved"
  | missing => "no resolved timing"

/-- The wording of a duration fault. -/
def DurationFault.message : DurationFault → String
  | content => "content duration needs media with a known duration"
  | noAudio => "no audio placeholder to match"
  | audio placeholderId => s!"audio placeholder '{placeholderId}' has no known duration"

/-- The wording of a lookup fault. -/
def LookupFault.message : LookupFault → String
  | probe mediaName => s!"probe of '{mediaName}' failed"
  | transcript key => s!"Unknown transcript '{key}'"
  | noTranscripts => "transcript content needs a transcript source"
  | told reason => reason

/-- The wording of an expectation. -/
def Expected.message : Expected → String
  | kind k => k.name
  | contentOf track => s!"input for a {track.name} track"

/-- The wording of what was given. -/
def Actual.message : Actual → String
  | kind k => k.name
  | cell value => s!"'{value}'"

/-- The wording of a format fault. -/
def FormatFault.message : FormatFault → String
  | malformed => "malformed JSON"
  | unsupportedVersion version =>
    s!"unsupported version '{version}' (expected '{Template.currentVersion}')"
  | missingVersion => "missing version"
  | shape => "unexpected shape"
  | emptyId => "template id is empty"
  | unsafeId id => s!"template id '{id}' is not a safe file name"

/-- The wording of a failure. -/
def Failure.message : Failure Float → String
  | extraction fault => s!"Extraction failed: {fault.message}"
  | inputs findings =>
    "Placeholder validation failed: " ++ "; ".intercalate (findings.map (·.issue.text))
  | timing elementId fault =>
    s!"Unresolved timing reference for element {elementId}: {fault.message}"
  | unknownDuration elementId fault =>
    s!"Missing media metadata for element {elementId}: {fault.message}"
  | wrongInput placeholderId expected actual =>
    s!"Placeholder type mismatch for {placeholderId}: expected {expected.message}, got {actual.message}"
  | noSegment elementId index available =>
    s!"Transcript segment index {index} out of range for element {elementId} ({available} segments)"
  | unknownGenerator name => s!"Unknown generator: {name}"
  | lookup fault => s!"Media lookup failed: {fault.message}"
  | format fault => s!"Invalid template format: {fault.message}"
  | unknownOperator ruleId operator => s!"Unknown rule operator '{operator}' in rule {ruleId}"
  | storage => "IO error"

end Storyboard
