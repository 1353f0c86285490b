import Storyboard.Interpretation
import Storyboard.Template.Document

/-!
# Options of interpretation and transcripts in documents

Reading and writing what goes into filling a template.
-/

namespace Storyboard

open Json

/-- Options as a document. -/
def FillOptions.toJson (o : FillOptions Float) : Json :=
  .obj [("targetCanvas", orNull Canvas.toJson o.targetCanvas),
    ("matchAudioPlaceholder", orNull .str o.matchAudioPlaceholder),
    ("timelineDuration", orNull number o.timelineDuration),
    ("projectName", orNull .str o.projectName)]

/-- Options from a document. -/
def FillOptions.ofJson : Reader (FillOptions Float) := fun v => do
  let fields ← asRecord ["targetCanvas", "matchAudioPlaceholder", "timelineDuration",
      "projectName"] v
  return {
    targetCanvas := ← fetch? fields "targetCanvas" Canvas.ofJson
    matchAudioPlaceholder := ← fetch? fields "matchAudioPlaceholder" asText
    timelineDuration := ← fetch? fields "timelineDuration" asFloat
    projectName := ← fetch? fields "projectName" asText }

/-- A segment as a document. -/
def Segment.toJson (s : Segment Float) : Json :=
  .obj [("text", .str s.text), ("startTime", number s.start), ("endTime", number s.finish)]

/-- A segment from a document. -/
def Segment.ofJson : Reader (Segment Float) := fun v => do
  let fields ← asRecord ["text", "startTime", "endTime"] v
  return {
    text := ← fetch fields "text" asText
    start := ← fetch fields "startTime" asFloat
    finish := ← fetch fields "endTime" asFloat }

end Storyboard
