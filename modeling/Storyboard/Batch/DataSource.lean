import Storyboard.Failure
import Storyboard.Text.Token

/-!
# Rows of data

A table whose rows each fill a template: which column fills which placeholder, and how the project
made from a row is named.
-/

namespace Storyboard.Batch

/-- A row, by column. -/
abbrev Row := Keyed String

/-- A table and which of its columns fill which placeholders. -/
structure DataSource where
  columns : List String := []
  rows : List Row := []
  /-- The column for each placeholder, which is named by name or id. -/
  mappings : Keyed String := []
  deriving DecidableEq

namespace DataSource

/-- The table with one more row, given in the order of the columns. -/
def withRow (s : DataSource) (cells : List String) : DataSource :=
  { s with rows := s.rows ++ [Keyed.ofList (s.columns.zip cells)] }

/-- A table of columns and rows of cells, with no placeholders filled yet. -/
def ofTable (columns : List String) (rows : List (List String)) : DataSource :=
  rows.foldl withRow { columns }

/-- The table with a column for a placeholder. -/
def withMapping (s : DataSource) (placeholder column : String) : DataSource :=
  { s with mappings := Keyed.insert placeholder column s.mappings }

end DataSource

variable {τ : Type}

/-- The cell of a column without blanks around it, unless nothing is left. -/
def cell? (row : Row) (column : String) : Option String :=
  ((row.get? column).map Text.trim).filter (· != "")

/-- The placeholder that a mapping is for: the one with its key as name, else as id. -/
def target? (t : Template τ) (key : String) : Option (Placeholder τ) :=
  (t.placeholderNamed? key).or (t.placeholder? key)

/-- The media file that a cell names. -/
def cellMedia (value : String) : MediaRef τ :=
  { id := value, name := (Text.fileName? value).getD value, path := some value }

/-- A cell as an input of a placeholder's kind. -/
def cellInput (p : Placeholder τ) (value : String) : Except (Failure τ) (Input τ) :=
  match p.kind with
  | .text => .ok (.text value)
  | .transcript => .ok (.transcript value)
  | .color => .ok (.color value)
  | .font => .ok (.font value)
  | .video => .ok (.video (cellMedia value))
  | .audio => .ok (.audio (cellMedia value))
  | .image => .ok (.image (cellMedia value))
  | .number =>
    match Decimal.read? value with
    | some number => .ok (.number number)
    | none => .error (.wrongInput p.id (.kind .number) (.cell value))

/-- What one mapping adds to the inputs of a row, or finds missing. -/
def addMapping (t : Template τ) (row : Row) (state : Inputs τ × List (Finding τ))
    (mapping : String × String) : Except (Failure τ) (Inputs τ × List (Finding τ)) :=
  let (inputs, missing) := state
  let (key, column) := mapping
  match target? t key, cell? row column with
  | none, none => .ok (inputs, missing)
  | none, some value => .ok (Keyed.insert key (.text value) inputs, missing)
  | some p, none =>
    if p.required && p.default.isNone then
      .ok (inputs, missing ++ [{ cause := .noCell column p.name, placeholderId := some p.id }])
    else .ok (inputs, missing)
  | some p, some value => do return (Keyed.insert p.id (← cellInput p value) inputs, missing)

/-- The inputs that a row gives to a template. -/
def rowInputs (t : Template τ) (source : DataSource) (row : Row) :
    Except (Failure τ) (Inputs τ) := do
  let (inputs, missing) ← source.mappings.foldlM (addMapping t row) ([], [])
  unless missing.isEmpty do throw (.inputs missing)
  return inputs

/-- The name of the project made from a row: the pattern with the row's number and cells put in, or
the template's name with the number where there is no pattern. -/
def expandName (pattern : String) (index : Nat) (row : Row) (templateName : String) : String :=
  let number := toString (index + 1)
  if (Text.trim pattern).isEmpty then templateName ++ " " ++ number
  else
    Text.expand (fun c => c != '\x7b' && c != '\x7d')
      (fun key => if key == "index" then some number else row.get? key) pattern

end Storyboard.Batch
