import Storyboard.Storage.FileSystem

/-!
# Saving documents

A document is written to a hidden partial file beside its place and moved there when it is complete,
so that readers see the old document or the new one and nothing between. A save that fails takes its
partial file away again. Saving is given as a run of steps, any of which may fail, and shows every
state that the file system goes through.
-/

namespace Storyboard.Storage

/-- A step of a save. -/
inductive SaveStep where
  | makeDirectory
  | createPartial
  | write
  | flush
  | sync
  | rename
  deriving DecidableEq

/-- A document to be saved: its place, the place of the partial file, and its content. -/
structure Saving where
  target : Path
  part : Path
  content : String

/-- What a save went through and whether it succeeded. -/
structure Saved where
  /-- The file system after each step, the last state at the end. -/
  moments : List FileSystem
  succeeded : Bool

namespace Saving

/-- The steps of a save, in order. -/
def steps : List SaveStep := [.makeDirectory, .createPartial, .write, .flush, .sync, .rename]

/-- The file system after an attempt that changes nothing unless it succeeds; whether it did. -/
def attempt (fs : FileSystem) (changed : Option FileSystem) : FileSystem × Bool :=
  match changed with
  | some after => (after, true)
  | none => (fs, false)

/-- The file system after a step and whether the step succeeded. -/
def perform (s : Saving) (fs : FileSystem) : SaveStep → FileSystem × Bool
  | .makeDirectory => fs.makeDirectories s.target.dropLast
  | .createPartial => attempt fs (fs.write s.part "")
  | .write => attempt fs (fs.write s.part s.content)
  | .flush | .sync => (fs, true)
  | .rename => attempt fs (fs.rename s.part s.target)

/-- Runs steps until one fails, by itself or because it is among the faulty ones. -/
def run (s : Saving) (faulty : SaveStep → Bool) : List SaveStep → FileSystem → Saved
  | [], _ => ⟨[], true⟩
  | step :: rest, fs =>
    match if faulty step then (fs, false) else s.perform fs step with
    | (fs, false) => ⟨[fs, fs.remove s.part], false⟩
    | (fs, true) =>
      let saved := s.run faulty rest fs
      { saved with moments := fs :: saved.moments }

end Saving

/-- The name of the partial file of a document. -/
def partialName (fileName id : String) : String := "." ++ fileName ++ "." ++ id ++ ".partial"

/-- Saves a document under a path, with an id for its partial file. -/
def save (fs : FileSystem) (faulty : SaveStep → Bool) (path : Path) (content id : String) : Saved :=
  match path.getLast? with
  | none => ⟨[], false⟩
  | some name =>
    let job : Saving := ⟨path, path.dropLast ++ [partialName name id], content⟩
    job.run faulty Saving.steps fs

/-- The file system after a save. -/
def Saved.final (s : Saved) (before : FileSystem) : FileSystem := s.moments.getLast?.getD before

end Storyboard.Storage
