import Mathlib.Data.List.Forall2
import Storyboard.Proofs.Batch.Structural

/-!
# The books of a batch

While a batch is worked on, its counters, its events and its outcomes are kept in different places.
They agree after every row, whenever the batch is cancelled, and so does the status at the end.
-/

namespace Storyboard.Batch

variable {ω : Type} {job : Job} {t : Template Float} {make : Maker ω} {cancelled : ω → Bool × ω}

/-! ## Outcomes -/

namespace Outcome

/-- Whether the row has no project. -/
def failed (o : Outcome) : Bool := !o.result.isOk

/-- What is told about the row. -/
def event (jobId : String) (o : Outcome) : Event :=
  match o.result with
  | .ok project => .rowCompleted jobId o.rowIndex project.id o.name
  | .error failure => .rowFailed jobId o.rowIndex failure

/-- The outcome is that of a row: it has the row's place and name, and what was made of the row. -/
structure Of (job : Job) (t : Template Float) (make : Maker ω) (row : Row × Nat) (o : Outcome) :
    Prop where
  index : o.rowIndex = row.2
  name : o.name = expandName job.namingPattern row.2 row.1 t.name
  result : ∃ ids w, o.result = (makeRow t job.dataSource make row.1 o.name ids w).1.map (·.1)

end Outcome

/-! ## Rows -/

/-- The counters and the events of a job at work are those of some outcomes. -/
structure Noted (job : Job) (outcomes : List Outcome) (work : Work ω) : Prop where
  counters : work.job = { job with
    status := .running
    processedRows := outcomes.length
    failedRows := outcomes.countP (·.failed)
    completedAt := none }
  events : work.events = .started job.id job.totalRows :: outcomes.map (·.event job.id)

/-- A job starts with nothing noted, whatever was noted in it before. -/
theorem noted_start (job : Job) (ids : IdSupply) (w : ω) : Noted job [] (start job ids w) :=
  ⟨rfl, rfl⟩

/-- Taking note of one more outcome, whatever ids and surroundings are left then. -/
theorem Noted.record {outcomes : List Outcome} {work : Work ω} (noted : Noted job outcomes work)
    (o : Outcome) (ids : IdSupply) (state : ω) :
    Noted job (outcomes ++ [o]) ({ work with ids, state }.record o) := by
  obtain ⟨same, events⟩ := noted
  cases made : o.result with
  | ok project =>
    constructor
    · simp [Work.record, made, same, Outcome.failed, Except.isOk, Except.toBool]
    · simp [Work.record, made, same, events, Outcome.event]
  | error failure =>
    constructor
    · simp [Work.record, made, same, Outcome.failed, Except.isOk, Except.toBool]
    · simp [Work.record, made, same, events, Outcome.event]

/-- **Working on rows** takes note of each, in order, until there are no more or the batch is
cancelled. -/
theorem processRows_noted (rows : List Row) (index : Nat) {before : List Outcome} {work : Work ω}
    (noted : Noted job before work) {outcomes : List Outcome} {after : Work ω}
    (done : processRows t make cancelled index rows work = (outcomes, after)) :
    Noted job (before ++ outcomes) after ∧
      List.Forall₂ (Outcome.Of job t make) ((rows.take outcomes.length).zipIdx index) outcomes ∧
      (outcomes.length < rows.length → ∃ w, cancelled w = (true, after.state)) := by
  induction rows generalizing index before work outcomes with
  | nil =>
    cases done
    exact ⟨by rwa [List.append_nil], .nil, nofun⟩
  | cons row rest ih =>
    unfold processRows at done
    split at done
    · next state stop =>
      cases done
      exact ⟨⟨by rw [List.append_nil, noted.counters], by rw [List.append_nil, noted.events]⟩, .nil,
        fun _ => ⟨work.state, stop⟩⟩
    · next state go =>
      dsimp only at done
      -- The row's outcome is noted first; then the rest is worked on.
      generalize made : makeRow t work.job.dataSource make row
        (expandName work.job.namingPattern index row t.name) work.ids state = result at done
      obtain ⟨made', state'⟩ := result
      dsimp only at done
      generalize later : processRows t make cancelled (index + 1) rest _ = rest' at done
      obtain ⟨others, final⟩ := rest'
      cases done
      have next := noted.record
        ⟨index, expandName work.job.namingPattern index row t.name, made'.map (·.1)⟩
        ((made'.toOption.map (·.2)).getD work.ids) state'
      obtain ⟨noted', rows, stopped⟩ := ih (index + 1) next later
      refine ⟨by simpa using noted', ?_, fun fewer => stopped (Nat.lt_of_succ_lt_succ fewer)⟩
      refine .cons ⟨rfl, ?_, work.ids, state, ?_⟩ rows
      · simp only [noted.counters]
      · have source : work.job.dataSource = job.dataSource := by rw [noted.counters]
        rw [← source, made]

/-! ## Whole batches -/

/-- The books of a batch that has ended. -/
structure Booked (job : Job) (t : Template Float) (make : Maker ω) (outcomes : List Outcome)
    (work : Work ω) : Prop where
  /-- The outcomes are those of the first rows, in order. -/
  rows : List.Forall₂ (Outcome.Of job t make) (job.dataSource.rows.take outcomes.length).zipIdx
    outcomes
  processed : work.job.processedRows = outcomes.length
  failed : work.job.failedRows = outcomes.countP (·.failed)
  /-- The job is cancelled where a row has no outcome. -/
  status : work.job.status =
    if outcomes.length < job.totalRows then .cancelled
    else if 0 < outcomes.countP (·.failed) then .completedWithErrors
    else .completed
  /-- Of each outcome is told, between the start and the end. -/
  events : work.events =
    .started job.id job.totalRows :: outcomes.map (·.event job.id) ++
      [.finished job.id work.job.status work.job.processedRows work.job.failedRows]

/-- Ending a job that stands as noted. -/
theorem Noted.finish {outcomes : List Outcome} {work : Work ω} (noted : Noted job outcomes work)
    (stopped : outcomes.length < job.totalRows → (cancelled work.state).1 = true) (now : Instant)
    (rows : List.Forall₂ (Outcome.Of job t make) (job.dataSource.rows.take outcomes.length).zipIdx
      outcomes) : Booked job t make outcomes (work.finish cancelled now) := by
  have status : (work.finish cancelled now).job.status =
      if outcomes.length < job.totalRows then .cancelled
      else if 0 < outcomes.countP (·.failed) then .completedWithErrors
      else .completed := by
    simp only [Work.finish, noted.counters, Job.totalRows] at stopped ⊢
    by_cases fewer : outcomes.length < job.dataSource.rows.length
    · simp [stopped fewer, fewer]
    · simp [fewer]
  refine ⟨rows, ?_, ?_, status, ?_⟩
  · simp only [Work.finish, noted.counters]
  · simp only [Work.finish, noted.counters]
  · simp only [Work.finish, noted.counters, noted.events, List.cons_append]

theorem booked_process (job : Job) (t : Template Float) (make : Maker ω)
    (latched : ∀ w, (cancelled w).1 = true → (cancelled (cancelled w).2).1 = true) (now : Instant)
    (ids : IdSupply) (w : ω) :
    Booked job t make (process job t make cancelled now ids w).1
      (process job t make cancelled now ids w).2 := by
  unfold process
  generalize done : processRows t make cancelled 0 job.dataSource.rows (start job ids w) = result
  obtain ⟨outcomes, work⟩ := result
  obtain ⟨noted, rows, stopped⟩ := processRows_noted _ 0 (noted_start job ids w) done
  refine Noted.finish noted (fun fewer => ?_) now rows
  -- The flag that stopped the rows is read once more at the end.
  obtain ⟨w, stop⟩ := stopped fewer
  have again := latched w (by rw [stop])
  rwa [stop] at again

/-- Each outcome is that of the row at its place. -/
theorem of_getElem?_process {make : Maker ω} {now : Instant} {ids : IdSupply} {w : ω} {i : Nat}
    {o : Outcome} (here : (process job t make cancelled now ids w).1[i]? = some o) :
    ∃ row, job.dataSource.rows[i]? = some row ∧ Outcome.Of job t make (row, i) o := by
  unfold process at here
  generalize done : processRows t make cancelled 0 job.dataSource.rows (start job ids w) = result
    at here
  obtain ⟨outcomes, work⟩ := result
  obtain ⟨-, rows, -⟩ := processRows_noted _ 0 (noted_start job ids w) done
  obtain ⟨bound, rfl⟩ := List.getElem?_eq_some_iff.1 here
  have inside := rows.length_eq ▸ bound
  have outcome := rows.get inside bound
  rw [List.get_eq_getElem, List.getElem_zipIdx, Nat.zero_add, List.getElem_take] at outcome
  exact ⟨_, List.getElem?_eq_getElem _, outcome⟩

/-- What is made of a row without collaborators is made from its inputs and settled by the rules. -/
theorem makeRow_quick_ok {source : DataSource} {row : Row} {name : String} {now : Instant}
    {ids left : IdSupply} {w : ω} {p : Project Float}
    (made : (makeRow t source (quickMaker t now) row name ids w).1 = .ok (p, left)) :
    ∃ inputs before report, rowInputs t source row = .ok inputs ∧
      quickProject t inputs name now ids = .ok before ∧ t.settle before = .ok (p, report, left) := by
  unfold makeRow at made
  split at made
  · next inputs read =>
    obtain ⟨⟨q, report, rest⟩, settled, same⟩ := map_ok_iff.1 made
    obtain ⟨before, quick, settled⟩ := bind_ok_iff.1 settled
    obtain ⟨rfl, rfl⟩ := Prod.mk.inj same
    exact ⟨inputs, before, report, read, quick, settled⟩
  · cases made

/-- A project that is made without collaborators is built from the timeline by recorded durations. -/
theorem quickProject_ok {τ : Type} [Measure τ] {t : Template τ} {inputs : Inputs τ} {name : String}
    {now : Instant} {ids : IdSupply} {made : Project τ × IdSupply}
    (done : quickProject t inputs name now ids = .ok made) :
    ∃ timeline filled, Timeline.hinted t none = .ok timeline ∧
      Template.fillTracks timeline (fun track e => (quickContent t inputs track e).map some)
        t.tracks = .ok filled ∧
      t.build t.canvas name now inputs.keys (defaultsUsed t inputs) filled ids = made := by
  unfold quickProject at done
  dsimp only at done
  rw [unless_ok_iff] at done
  obtain ⟨-, done⟩ := done
  obtain ⟨timeline, timed, done⟩ := bind_ok_iff.1 done
  obtain ⟨filled, contents, done⟩ := bind_ok_iff.1 done
  exact ⟨timeline, filled, timed, contents, pure_ok.1 done⟩

/-- How the projects of a mode are made. -/
def Mode.maker (mode : Mode) (t : Template Float) (c : Collaborators Float ω)
    (options : FillOptions Float) (now : Instant) : Maker ω :=
  match mode with
  | .quick => quickMaker t now
  | .full => fullMaker t c options now

theorem run_eq_process (job : Job) (t : Template Float) (c : Collaborators Float ω)
    (options : FillOptions Float) (now : Instant) (ids : IdSupply) (w : ω) :
    run job t c options cancelled now ids w =
      process job t (job.mode.maker t c options now) cancelled now ids w := by
  unfold run
  cases job.mode <;> rfl

/-- **The books of a batch agree**, whatever the job was before, in either mode, and whenever the
batch is cancelled, so long as it stays cancelled once it is. -/
theorem booked_run (job : Job) (t : Template Float) (c : Collaborators Float ω)
    (options : FillOptions Float)
    (latched : ∀ w, (cancelled w).1 = true → (cancelled (cancelled w).2).1 = true) (now : Instant)
    (ids : IdSupply) (w : ω) :
    Booked job t (job.mode.maker t c options now) (run job t c options cancelled now ids w).1
        (run job t c options cancelled now ids w).2 ∧
      Booked job t (quickMaker t now) (runQuick job t cancelled now ids w).1
        (runQuick job t cancelled now ids w).2 := by
  constructor
  · rw [run_eq_process]
    exact booked_process job t _ latched now ids w
  · exact booked_process job t _ latched now ids w

/-- A flag that is set before it is read for the third time, and stays set. -/
def thirdReading (readings : Nat) : Bool × Nat := (decide (2 ≤ readings), readings + 1)

/-- Three rows of a job that was worked on before. -/
def repeated : Job :=
  { greetings with
    dataSource := (DataSource.ofTable ["name"] [["Ann"], [""], ["Bob"]]).withMapping "Name" "name"
    status := .completedWithErrors, processedRows := 7, failedRows := 2 }

theorem booked_repeated :
    (∀ w, (thirdReading w).1 = true → (thirdReading (thirdReading w).2).1 = true) ∧
      ∃ outcomes work,
        run repeated greeting .none {} thirdReading ⟨0, 0⟩ ⟨Nat.repr, 0⟩ 0 = (outcomes, work) ∧
        outcomes.length = 2 ∧ work.job.status = .cancelled ∧
        Booked repeated greeting (quickMaker greeting ⟨0, 0⟩) outcomes work := by
  have latched : ∀ w, (thirdReading w).1 = true → (thirdReading (thirdReading w).2).1 = true := by
    intro w set
    exact decide_eq_true (Nat.le_succ_of_le (of_decide_eq_true set))
  have booked := (booked_run repeated greeting .none {} latched ⟨0, 0⟩ ⟨Nat.repr, 0⟩ 0).1
  have two : (run repeated greeting .none {} thirdReading ⟨0, 0⟩ ⟨Nat.repr, 0⟩ 0).1.length = 2 := by
    decide +kernel
  refine ⟨latched, _, _, (Prod.eta _).symm, two, ?_, booked⟩
  rw [booked.status, two]
  rfl

end Storyboard.Batch
