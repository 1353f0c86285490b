import Storyboard.Batch
import Storyboard.Json.Fields

/-!
# Batches in documents

Reading and writing tables and jobs, and writing events.
-/

namespace Storyboard.Batch

open Json

/-- The name of a mode. -/
def Mode.name : Mode → String
  | quick => "quick"
  | full => "full"

/-- The names of modes. -/
def Mode.names : List (String × Mode) := [("quick", .quick), ("full", .full)]

/-- The name of a status. -/
def Status.name : Status → String
  | pending => "pending"
  | running => "running"
  | completed => "completed"
  | completedWithErrors => "completed_with_errors"
  | cancelled => "cancelled"

/-- The names of statuses. -/
def Status.names : List (String × Status) :=
  [Status.pending, .running, .completed, .completedWithErrors, .cancelled].map fun s => (s.name, s)

/-- A row as a document. -/
def rowToJson (row : Row) : Json := keyed .str row

/-- A row from a document. -/
def rowOfJson : Reader Row := asKeyed asText

/-- A table as a document. -/
def DataSource.toJson (s : DataSource) : Json :=
  .obj [("columns", strs s.columns), ("data", list rowToJson s.rows),
    ("mappings", keyed .str s.mappings)]

/-- A table from a document. -/
def DataSource.ofJson : Reader DataSource := fun v => do
  let fields ← asRecord ["columns", "data", "mappings"] v
  return {
    columns := ← fetchOr fields "columns" [] (asList asText)
    rows := ← fetchOr fields "data" [] (asList rowOfJson)
    mappings := ← fetchOr fields "mappings" [] (asKeyed asText) }

/-- A job as a document. -/
def Job.toJson (j : Job) : Json :=
  .obj <|
    [("id", .str j.id), ("name", .str j.name), ("templateId", .str j.templateId),
      ("dataSource", j.dataSource.toJson), ("namingPattern", .str j.namingPattern),
      ("mode", .str j.mode.name), ("status", .str j.status.name),
      ("processedRows", nat j.processedRows), ("failedRows", nat j.failedRows),
      ("createdAt", instant j.createdAt)]
    ++ opt "completedAt" instant j.completedAt

/-- A job from a document. -/
def Job.ofJson : Reader Job := fun v => do
  let fields ← asRecord ["id", "name", "templateId", "dataSource", "namingPattern", "mode",
      "status", "processedRows", "failedRows", "createdAt", "completedAt"] v
  return {
    id := ← fetch fields "id" asText
    name := ← fetch fields "name" asText
    templateId := ← fetch fields "templateId" asText
    dataSource := ← fetch fields "dataSource" DataSource.ofJson
    namingPattern := ← fetchOr fields "namingPattern" "" asText
    mode := ← fetchOr fields "mode" .quick (asNamed Mode.names)
    status := ← fetchOr fields "status" .pending (asNamed Status.names)
    processedRows := ← fetchOr fields "processedRows" 0 asCount64
    failedRows := ← fetchOr fields "failedRows" 0 asCount64
    createdAt := ← fetch fields "createdAt" asInstant
    completedAt := ← fetch? fields "completedAt" asInstant }

/-- An event as a document. -/
def Event.toJson : Event → Json
  | .started jobId totalRows =>
    .obj [("event", .str "started"), ("jobId", .str jobId), ("totalRows", nat totalRows)]
  | .rowCompleted jobId rowIndex projectId name =>
    .obj [("event", .str "rowCompleted"), ("jobId", .str jobId), ("rowIndex", nat rowIndex),
      ("projectId", .str projectId), ("name", .str name)]
  | .rowFailed jobId rowIndex failure =>
    .obj [("event", .str "rowFailed"), ("jobId", .str jobId), ("rowIndex", nat rowIndex),
      ("message", .str failure.message)]
  | .finished jobId status processedRows failedRows =>
    .obj [("event", .str "finished"), ("jobId", .str jobId), ("status", .str status.name),
      ("processedRows", nat processedRows), ("failedRows", nat failedRows)]

end Storyboard.Batch
