import Storyboard.Batch.DataSource
import Storyboard.Batch.Quick
import Storyboard.Interpretation.Rules

/-!
# Batches

Each row of a table becomes a project. Rows are worked on one after the other, and a row that fails
does not stop the next one. Before each row the surroundings are asked whether the batch has been
cancelled; what they answer may depend on a state `ω` that media probes change as well.
-/

namespace Storyboard.Batch

/-- How rows are filled: from what is at hand, or with collaborators. -/
inductive Mode where
  | quick
  | full
  deriving DecidableEq

/-- How far a job is. -/
inductive Status where
  | pending
  | running
  | completed
  | completedWithErrors
  | cancelled
  deriving DecidableEq

/-- A table to be worked through. -/
structure Job where
  id : String
  name : String
  templateId : String
  dataSource : DataSource
  namingPattern : String := ""
  mode : Mode := .quick
  status : Status := .pending
  processedRows : Nat := 0
  failedRows : Nat := 0
  createdAt : Instant
  completedAt : Option Instant := none
  deriving DecidableEq

/-- What is told about a job while it is worked on. -/
inductive Event where
  | started (jobId : String) (totalRows : Nat)
  | rowCompleted (jobId : String) (rowIndex : Nat) (projectId name : String)
  | rowFailed (jobId : String) (rowIndex : Nat) (failure : Failure Float)
  | finished (jobId : String) (status : Status) (processedRows failedRows : Nat)

/-- What became of a row. -/
structure Outcome where
  rowIndex : Nat
  name : String
  result : Except (Failure Float) (Project Float)

/-- A job at work: the job as it stands, the events so far, the ids left and the surroundings. -/
structure Work (ω : Type) where
  job : Job
  events : List Event
  ids : IdSupply
  state : ω

/-- Makes a project from a row's inputs and name. -/
abbrev Maker (ω : Type) :=
  Inputs Float → String → IdSupply → ω → Except (Failure Float) (Project Float × IdSupply) × ω

namespace Status

/-- Whether nothing more will happen to a job. -/
def isFinished : Status → Bool
  | completed | completedWithErrors | cancelled => true
  | _ => false

end Status

namespace Job

/-- The number of rows. -/
def totalRows (j : Job) : Nat := j.dataSource.rows.length

/-- The share of rows that are done; of no rows all are. -/
def progress (j : Job) : Single :=
  if j.totalRows = 0 then .one else .ratio j.processedRows j.totalRows

end Job

variable {ω : Type}

/-- Makes projects without collaborators. -/
def quickMaker (t : Template Float) (now : Instant) : Maker ω := fun inputs name ids w =>
  (((quickProject t inputs name now ids).bind t.settle).map fun (project, _, ids) =>
    (project, ids), w)

/-- Makes projects with collaborators. -/
def fullMaker (t : Template Float) (c : Collaborators Float ω) (options : FillOptions Float)
    (now : Instant) : Maker ω := fun inputs name ids w =>
  let (made, w) :=
    t.interpretWithRules c inputs { options with projectName := some name } now ids w
  (made.map fun (project, _, ids) => (project, ids), w)

/-- The project of a row, or why there is none. -/
def makeRow (t : Template Float) (source : DataSource) (make : Maker ω) (row : Row) (name : String)
    (ids : IdSupply) (w : ω) : Except (Failure Float) (Project Float × IdSupply) × ω :=
  match rowInputs t source row with
  | .ok inputs => make inputs name ids w
  | .error failure => (.error failure, w)

/-- Starts a job anew. -/
def start (job : Job) (ids : IdSupply) (w : ω) : Work ω :=
  let job := { job with status := .running, processedRows := 0, failedRows := 0, completedAt := none }
  { job, events := [.started job.id job.totalRows], ids, state := w }

/-- Takes note of what became of a row. -/
def Work.record (work : Work ω) (o : Outcome) : Work ω :=
  let job := { work.job with processedRows := work.job.processedRows + 1 }
  match o.result with
  | .ok project =>
    { work with job, events := work.events ++ [.rowCompleted job.id o.rowIndex project.id o.name] }
  | .error failure =>
    { work with
      job := { job with failedRows := job.failedRows + 1 }
      events := work.events ++ [.rowFailed job.id o.rowIndex failure] }

/-- Ends a job. -/
def Work.finish (work : Work ω) (cancelled : ω → Bool × ω) (now : Instant) : Work ω :=
  let (stop, state) := cancelled work.state
  let job := work.job
  let status : Status :=
    if stop && job.processedRows < job.totalRows then .cancelled
    else if 0 < job.failedRows then .completedWithErrors
    else .completed
  { work with
    state
    job := { job with status, completedAt := some now }
    events := work.events ++ [.finished job.id status job.processedRows job.failedRows] }

/-- Works on rows, the first of which has a given index, until the batch is cancelled. -/
def processRows (t : Template Float) (make : Maker ω) (cancelled : ω → Bool × ω) (index : Nat) :
    List Row → Work ω → List Outcome × Work ω
  | [], work => ([], work)
  | row :: rest, work =>
    match cancelled work.state with
    | (true, state) => ([], { work with state })
    | (false, state) =>
      let name := expandName work.job.namingPattern index row t.name
      let (made, state) := makeRow t work.job.dataSource make row name work.ids state
      let ids := (made.toOption.map (·.2)).getD work.ids
      let outcome : Outcome := ⟨index, name, made.map (·.1)⟩
      let (outcomes, work) := processRows t make cancelled (index + 1) rest
        ({ work with ids, state }.record outcome)
      (outcome :: outcomes, work)

/-- Works through a job with a given way of making projects. -/
def process (job : Job) (t : Template Float) (make : Maker ω) (cancelled : ω → Bool × ω)
    (now : Instant) (ids : IdSupply) (w : ω) : List Outcome × Work ω :=
  let (outcomes, work) := processRows t make cancelled 0 job.dataSource.rows (start job ids w)
  (outcomes, work.finish cancelled now)

/-- Works through a job without collaborators, whatever its mode. -/
def runQuick (job : Job) (t : Template Float) (cancelled : ω → Bool × ω) (now : Instant)
    (ids : IdSupply) (w : ω) : List Outcome × Work ω :=
  process job t (quickMaker t now) cancelled now ids w

/-- Works through a job in its mode. -/
def run (job : Job) (t : Template Float) (c : Collaborators Float ω) (options : FillOptions Float)
    (cancelled : ω → Bool × ω) (now : Instant) (ids : IdSupply) (w : ω) :
    List Outcome × Work ω :=
  match job.mode with
  | .quick => runQuick job t cancelled now ids w
  | .full => process job t (fullMaker t c options now) cancelled now ids w

end Storyboard.Batch
