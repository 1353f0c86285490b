import Storyboard.Proofs.Storage.FileSystem

/-!
# Saves are atomic

While a document is being saved, nothing has changed but its partial file and that directories above
it may have been made. This holds from step to step until the partial file is moved, which puts the
whole document in its place at once. Whichever step fails before, the partial file is taken away and
everything is as it was.
-/

namespace Storyboard.Storage

variable {fs before after : FileSystem} {path : Path} {content : String}

/-- The place of the partial file of a document, beside that of the document. -/
def partialPath (path : Path) (id : String) : Path :=
  path.dropLast ++ [partialName (path.getLast?.getD "template") id]

namespace FileSystem

/-- No path is above itself. -/
theorem not_mem_prefixes_dropLast (path : Path) : path ∉ prefixes path.dropLast := by
  intro member
  obtain ⟨count, inside, same⟩ := List.mem_map.1 member
  have shorter := congrArg List.length same
  rw [List.mem_range, List.length_dropLast] at inside
  rw [List.length_take, List.length_dropLast] at shorter
  omega

end FileSystem

/-! ## Before the document is moved -/

namespace Saving

open FileSystem (OnlyMakes prefixes)

variable {s : Saving} {faulty : SaveStep → Bool} {step : SaveStep} {rest : List SaveStep}
  {seen : FileSystem}

/-- The partial file is not the document. -/
structure Apart (s : Saving) : Prop where
  ne : s.part ≠ s.target
  below : s.part ≠ []

/-- What is seen at a moment, whatever has got into the partial file by then. -/
def Shows (s : Saving) (moment seen : FileSystem) : Prop :=
  ∀ other, other ≠ s.part → seen.node? other = moment.node? other

/-- Apart from the document and its partial file nothing has changed but that directories above the
document were made, where there was nothing. -/
def Spares (s : Saving) (before after : FileSystem) : Prop :=
  ∀ other, other ≠ s.target → other ≠ s.part → after.node? other = before.node? other ∨
    other ∈ prefixes s.target.dropLast ∧ before.node? other = none ∧
      after.node? other = some .directory

/-- The document has not been moved yet. -/
structure Pending (s : Saving) (before fs : FileSystem) : Prop where
  target : fs.node? s.target = before.node? s.target
  spares : s.Spares before fs

/-- **Saving is atomic**, as a run shows it that goes on from some state. -/
structure Atomic (s : Saving) (before now : FileSystem) (saved : Saved) : Prop where
  /-- At every moment the document is the old one or the new one, and nothing else has changed. -/
  whole : ∀ moment ∈ saved.moments, ∀ seen, s.Shows moment seen →
    (seen.node? s.target = before.node? s.target ∨ seen.node? s.target = some (.file s.content)) ∧
      s.Spares before seen
  /-- Afterwards it is the new one if the save succeeded, and the old one if it failed. -/
  outcome : (saved.final now).node? s.target =
    if saved.succeeded then some (.file s.content) else before.node? s.target
  /-- Elsewhere nothing has changed then either. -/
  elsewhere : s.Spares before (saved.final now)
  /-- Afterwards there is no partial file. -/
  gone : (saved.final now).node? s.part = none

theorem shows_remove (s : Saving) (fs : FileSystem) : s.Shows fs (fs.remove s.part) :=
  fun _ ne => fs.node?_remove ne

theorem shows_write (written : fs.write s.part content = some after) : s.Shows fs after :=
  fun _ ne => FileSystem.node?_write written ne

theorem Spares.shows (spares : s.Spares before fs) (shown : s.Shows fs seen) :
    s.Spares before seen := by
  intro other notTarget notPart
  rw [shown other notPart]
  exact spares other notTarget notPart

/-- What has got into the partial file does not matter. -/
theorem Pending.shows (pending : s.Pending before fs) (apart : s.Apart)
    (shown : s.Shows fs seen) : s.Pending before seen :=
  ⟨(shown _ apart.ne.symm).trans pending.target, pending.spares.shows shown⟩

/-- Directories that are made above the document are all that has changed. -/
theorem Pending.makes (pending : s.Pending before fs)
    (makes : OnlyMakes (prefixes s.target.dropLast) fs after) : s.Pending before after := by
  constructor
  · rcases makes s.target with same | ⟨above, -, -⟩
    · exact same.trans pending.target
    · exact absurd above (FileSystem.not_mem_prefixes_dropLast _)
  · intro other notTarget notPart
    rcases makes other with same | ⟨above, nothing, made⟩
    · rw [same]
      exact pending.spares other notTarget notPart
    · rcases pending.spares other notTarget notPart with same | ⟨-, -, made'⟩
      · exact .inr ⟨above, same.symm.trans nothing, made⟩
      · cases made'.symm.trans nothing

/-- No step but the last touches anything but the partial file and directories above. -/
theorem Pending.perform (pending : s.Pending before fs) (apart : s.Apart)
    (early : step ≠ .rename) : s.Pending before (s.perform fs step).1 := by
  have writes (text : String) : s.Pending before (attempt fs (fs.write s.part text)).1 := by
    rw [attempt_fst]
    cases written : fs.write s.part text with
    | none => exact pending
    | some after => exact pending.shows apart (shows_write written)
  cases step with
  | makeDirectory => exact pending.makes (fs.onlyMakes_makeDirectories _)
  | createPartial => exact writes ""
  | write => exact writes s.content
  | flush => exact pending
  | sync => exact pending
  | rename => exact absurd rfl early

/-! ## Runs -/

/-- A save that stops takes its partial file away, and nothing has happened. -/
theorem Pending.stopped (pending : s.Pending before fs) (apart : s.Apart) (now : FileSystem) :
    s.Atomic before now ⟨[fs, fs.remove s.part], false⟩ := by
  have removed := pending.shows apart (s.shows_remove fs)
  refine ⟨fun moment member seen shown => ?_, removed.target, removed.spares,
    fs.node?_remove_self apart.below⟩
  have still : s.Pending before moment := by
    rcases List.mem_cons.1 member with rfl | member
    · exact pending
    · rwa [List.mem_singleton.1 member]
  have there := still.shows apart shown
  exact ⟨.inl there.target, there.spares⟩

/-- **One step**: a run is atomic if it is so from every state that its first step can lead to. -/
theorem Atomic.cons (pending : s.Pending before fs) (apart : s.Apart) (early : step ≠ .rename)
    (later : ∀ next, s.perform fs step = (next, true) → s.Pending before next →
      s.Atomic before next (s.run faulty rest next)) :
    s.Atomic before fs (s.run faulty (step :: rest) fs) := by
  rcases s.run_cons_cases faulty step rest fs with ⟨stopped, why, run⟩ | ⟨next, performed, run⟩
  · have still : s.Pending before stopped := by
      rcases why with rfl | failed
      · exact pending
      · simpa [failed] using pending.perform apart early
    rw [run]
    exact still.stopped apart fs
  · have still : s.Pending before next := by
      simpa [performed] using pending.perform apart early
    obtain ⟨whole, outcome, elsewhere, gone⟩ := later next performed still
    rw [← final_cons fs] at outcome elsewhere gone
    rw [run]
    refine ⟨fun moment member seen shown => ?_, outcome, elsewhere, gone⟩
    rcases List.mem_cons.1 member with rfl | member
    · have there := still.shows apart shown
      exact ⟨.inl there.target, there.spares⟩
    · exact whole moment member seen shown

/-- **The last step** moves a partial file that is complete, or leaves everything as it was. -/
theorem Atomic.rename (pending : s.Pending before fs) (apart : s.Apart)
    (complete : fs.read? s.part = some s.content) :
    s.Atomic before fs (s.run faulty [.rename] fs) := by
  rcases s.run_cons_cases faulty .rename [] fs with ⟨stopped, why, run⟩ | ⟨next, performed, run⟩
  · obtain rfl : stopped = fs := by
      rcases why with rfl | failed
      · rfl
      · have kept := congrArg Prod.fst failed
        rw [perform, attempt_fst] at kept
        cases renamed : fs.rename s.part s.target with
        | none => simpa [renamed] using kept.symm
        | some after => simp [perform, attempt, renamed] at failed
    rw [run]
    exact pending.stopped apart stopped
  · have renamed : fs.rename s.part s.target = some next := attempt_ok performed
    rw [FileSystem.rename, complete] at renamed
    have moved := FileSystem.read?_eq_some_iff.1 (FileSystem.read?_write renamed)
    have spares : s.Spares before next := by
      intro other notTarget notPart
      rw [FileSystem.node?_write renamed notTarget, fs.node?_remove notPart]
      exact pending.spares other notTarget notPart
    rw [run]
    refine ⟨fun moment member seen shown => ?_, moved, spares,
      (FileSystem.node?_write renamed apart.ne).trans (fs.node?_remove_self apart.below)⟩
    rw [List.mem_singleton.1 member] at shown
    exact ⟨.inr ((shown _ apart.ne.symm).trans moved), spares.shows shown⟩

/-- A run of all steps is atomic. -/
theorem atomic_run (apart : s.Apart) (faulty : SaveStep → Bool) (fs : FileSystem) :
    s.Atomic fs fs (s.run faulty steps fs) := by
  have pending : s.Pending fs fs := ⟨rfl, fun _ _ _ => .inl rfl⟩
  refine .cons pending apart (by decide) fun made _ pending => ?_
  refine .cons pending apart (by decide) fun created _ pending => ?_
  refine .cons pending apart (by decide) fun written wrote pending => ?_
  refine .cons pending apart (by decide) fun flushed flush pending => ?_
  refine .cons pending apart (by decide) fun synced sync pending => ?_
  cases flush
  cases sync
  exact .rename pending apart (FileSystem.read?_write (attempt_ok wrote))

end Saving

theorem partialName_ne (name id : String) : partialName name id ≠ name := by
  intro same
  have longer := congrArg String.length same
  simp only [partialName, String.length_append] at longer
  have point : ".".length = 1 := rfl
  omega

/-- The partial file of a document lies beside it. -/
theorem apart_partialPath {name : String} (last : path.getLast? = some name) (content id : String) :
    Saving.Apart ⟨path, partialPath path id, content⟩ := by
  refine ⟨fun same => ?_, by simp [partialPath]⟩
  have names := congrArg List.getLast? same
  rw [partialPath, List.getLast?_append, last] at names
  exact partialName_ne name id (by simpa using names)

/-- **A save is atomic**, whatever is there before, wherever the document belongs, and whichever steps
fail. -/
theorem save_atomic (fs : FileSystem) (faulty : SaveStep → Bool) (path : Path)
    (content id : String) (fresh : fs.node? (partialPath path id) = none) :
    Saving.Atomic ⟨path, partialPath path id, content⟩ fs fs (save fs faulty path content id) := by
  unfold save
  split
  · exact ⟨nofun, rfl, fun _ _ _ => .inl rfl, fresh⟩
  · next name last =>
    have same : partialPath path id = path.dropLast ++ [partialName name id] := by
      rw [partialPath, last, Option.getD_some]
    rw [← same]
    exact Saving.atomic_run (apart_partialPath last content id) faulty fs

/-- A directory with a document. -/
def shelf : FileSystem :=
  ⟨.plain, [(["cards"], .directory), (["cards", "sea.template.json"], .file "old")]⟩

/-- A save that cannot be synced, one that fails of itself since its document would lie below a file,
and one that succeeds in a new directory. -/
theorem save_atomic_shelf :
    (shelf.node? (partialPath ["cards", "sea.template.json"] "7") = none ∧
      (save shelf (· == .sync) ["cards", "sea.template.json"] "new" "7").moments.length = 6 ∧
      (save shelf (· == .sync) ["cards", "sea.template.json"] "new" "7").succeeded = false ∧
      Saving.Atomic ⟨["cards", "sea.template.json"],
        partialPath ["cards", "sea.template.json"] "7", "new"⟩ shelf shelf
        (save shelf (· == .sync) ["cards", "sea.template.json"] "new" "7")) ∧
    (save shelf (fun _ => false) ["cards", "sea.template.json", "a"] "new" "7").succeeded = false ∧
    (save shelf (fun _ => false) ["new", "sea.template.json"] "new" "7").succeeded = true ∧
      Saving.Atomic ⟨["new", "sea.template.json"], partialPath ["new", "sea.template.json"] "7",
        "new"⟩ shelf shelf (save shelf (fun _ => false) ["new", "sea.template.json"] "new" "7") := by
  have fresh : shelf.node? (partialPath ["cards", "sea.template.json"] "7") = none := by decide
  exact ⟨⟨fresh, by decide, by decide, save_atomic shelf _ _ "new" "7" fresh⟩, by decide, by decide,
    save_atomic shelf _ _ "new" "7" (by decide)⟩

end Storyboard.Storage
