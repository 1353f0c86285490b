import Mathlib.Data.List.Basic
import Storyboard.Storage.Save

/-!
# What a save leaves alone

A save makes directories where there is nothing, and changes what is at the place of the document
and at that of its partial file. A save that succeeds leaves its document in its place, and
everything elsewhere as it was.
-/

namespace Storyboard.Storage

variable {fs before between after : FileSystem} {path other : Path} {node : Node} {content : String}

namespace FileSystem

/-! ## Single changes -/

@[simp] theorem disk_remove (fs : FileSystem) (path : Path) : (fs.remove path).disk = fs.disk := rfl

theorem lookup_filter {nodes : List (Path × Node)} (ne : other ≠ path) :
    (nodes.filter fun (p, _) => p != path).lookup other = nodes.lookup other := by
  induction nodes with
  | nil => rfl
  | cons entry rest ih =>
    obtain ⟨p, node⟩ := entry
    rw [List.filter_cons]
    by_cases here : p = path
    · subst here
      rw [if_neg (by simp), ih, List.lookup_cons, beq_eq_false_iff_ne.2 ne]
    · rw [if_pos (by simpa using here), List.lookup_cons, List.lookup_cons, ih]

theorem node?_remove (fs : FileSystem) (ne : other ≠ path) :
    (fs.remove path).node? other = fs.node? other := by
  rw [node?, node?, remove, lookup_filter ne]

theorem node?_remove_self (fs : FileSystem) (below : path ≠ []) :
    (fs.remove path).node? path = none := by
  rw [node?, if_neg below, List.lookup_eq_none_iff]
  intro entry member
  have ne : (entry.1 != path) = true := (List.mem_filter.1 member).2
  rwa [bne_comm] at ne

theorem node?_put (fs : FileSystem) (node : Node) (ne : other ≠ path) :
    (fs.put path node).node? other = fs.node? other := by
  have rest := fs.node?_remove ne
  unfold node? put at *
  rw [List.lookup_cons, beq_eq_false_iff_ne.2 ne]
  exact rest

theorem node?_put_self (fs : FileSystem) (node : Node) (below : path ≠ []) :
    (fs.put path node).node? path = some node := by
  rw [node?, if_neg below, put, List.lookup_cons, beq_self_eq_true]

/-- Writing a file changes nothing elsewhere. -/
theorem node?_write (written : fs.write path content = some after) (ne : other ≠ path) :
    after.node? other = fs.node? other := by
  unfold write at written
  split at written
  · cases written
    exact fs.node?_put _ ne
  · cases written

theorem read?_eq_some_iff : fs.read? path = some content ↔ fs.node? path = some (.file content) := by
  unfold read?
  split
  · next here => rw [here, Option.some_inj, Option.some_inj, Node.file.injEq]
  · next other => exact ⟨nofun, fun here => absurd here (other content)⟩

/-! ## Directories -/

/-- Nothing has changed but that directories were made at some paths, where there was nothing. -/
def OnlyMakes (made : List Path) (before after : FileSystem) : Prop :=
  ∀ path, after.node? path = before.node? path ∨
    path ∈ made ∧ before.node? path = none ∧ after.node? path = some .directory

theorem OnlyMakes.cons {first : Path} {rest : List Path} (one : OnlyMakes [first] fs between)
    (others : OnlyMakes rest between after) : OnlyMakes (first :: rest) fs after := by
  intro path
  rcases one path with same | ⟨here, nothing, made⟩
  · rcases others path with same' | ⟨member, nothing, made⟩
    · exact .inl (same'.trans same)
    · exact .inr ⟨List.mem_cons_of_mem _ member, same.symm.trans nothing, made⟩
  · rcases others path with same' | ⟨-, nothing', -⟩
    · exact .inr ⟨List.mem_cons.2 (.inl (List.mem_singleton.1 here)), nothing, same'.trans made⟩
    · cases made.symm.trans nothing'

theorem onlyMakes_makeDirectory (made : fs.makeDirectory path = some after) :
    OnlyMakes [path] fs after := by
  unfold makeDirectory at made
  split at made
  · cases made
    exact fun _ => .inl rfl
  · cases made
  · next nothing =>
    split at made
    · cases made
      intro other
      by_cases here : other = path
      · subst here
        have below : other ≠ [] := by
          rintro rfl
          cases nothing
        exact .inr ⟨List.mem_singleton_self _, nothing, fs.node?_put_self _ below⟩
      · exact .inl (fs.node?_put _ here)
    · cases made

theorem onlyMakes_makeEach (fs : FileSystem) (paths : List Path) :
    OnlyMakes paths fs (fs.makeEach paths).1 := by
  induction paths generalizing fs with
  | nil => exact fun _ => .inl rfl
  | cons first rest ih =>
    unfold makeEach
    split
    · next made => exact (onlyMakes_makeDirectory made).cons (ih _)
    · exact fun _ => .inl rfl

theorem onlyMakes_makeDirectories (fs : FileSystem) (path : Path) :
    OnlyMakes (prefixes path) fs (fs.makeDirectories path).1 := by
  unfold makeDirectories
  split
  · exact fs.onlyMakes_makeEach _
  · exact fun _ => .inl rfl

/-! ## What stays -/

/-- Whatever was at a path is there still, apart from some paths. -/
def KeepsBut (changed : List Path) (before after : FileSystem) : Prop :=
  ∀ path, path ∉ changed → ∀ node, before.node? path = some node → after.node? path = some node

namespace KeepsBut

variable {changed more : List Path}

theorem refl : KeepsBut changed before before := fun _ _ _ here => here

theorem trans (first : KeepsBut changed before between) (second : KeepsBut changed between after) :
    KeepsBut changed before after := fun path other node here =>
  second path other node (first path other node here)

theorem mono (keeps : KeepsBut changed before after) (subset : changed ⊆ more) :
    KeepsBut more before after := fun path other => keeps path fun member => other (subset member)

end KeepsBut

theorem keepsBut_remove (fs : FileSystem) (path : Path) : KeepsBut [path] fs (fs.remove path) :=
  fun other ne _ here => (fs.node?_remove (by simpa using ne)).trans here

/-- Directories are made only where there is nothing. -/
theorem OnlyMakes.keepsBut {made : List Path} (makes : OnlyMakes made before after) :
    KeepsBut [] before after := by
  intro other _ node here
  rcases makes other with same | ⟨-, nothing, -⟩
  · exact same.trans here
  · cases nothing.symm.trans here

theorem keepsBut_write (written : fs.write path content = some after) :
    KeepsBut [path] fs after := fun _ ne _ here =>
  (node?_write written (by simpa using ne)).trans here

theorem read?_write (written : fs.write path content = some after) :
    after.read? path = some content := by
  unfold write at written
  split at written
  · next ready =>
    cases written
    have below : path ≠ [] := by
      rintro rfl
      simp [Disk.isNameable] at ready
    rw [read?, fs.node?_put_self _ below]
  · cases written

theorem keepsBut_rename (renamed : fs.rename path other = some after) :
    KeepsBut [path, other] fs after := by
  unfold rename at renamed
  split at renamed
  · exact ((fs.keepsBut_remove path).mono (by simp)).trans ((keepsBut_write renamed).mono (by simp))
  · cases renamed

theorem read?_rename (read : fs.read? path = some content)
    (renamed : fs.rename path other = some after) : after.read? other = some content := by
  rw [rename, read] at renamed
  exact read?_write renamed

theorem KeepsBut.read? {changed : List Path} (keeps : KeepsBut changed before after)
    (unchanged : path ∉ changed) (read : before.read? path = some content) :
    after.read? path = some content :=
  read?_eq_some_iff.2 (keeps path unchanged _ (read?_eq_some_iff.1 read))

end FileSystem

/-! ## Saves -/

namespace Saving

open FileSystem (KeepsBut)

variable {s : Saving} {faulty : SaveStep → Bool} {step : SaveStep} {rest : List SaveStep}

theorem attempt_ok {changed : Option FileSystem} (done : attempt fs changed = (after, true)) :
    changed = some after := by
  cases changed with
  | none => cases done
  | some changed => exact congrArg some (Prod.mk.inj done).1

theorem attempt_fst {changed : Option FileSystem} :
    (attempt fs changed).1 = changed.getD fs := by
  cases changed <;> rfl

/-- A save ends as it goes on after a moment. -/
theorem final_cons {saved : Saved} (fs next : FileSystem) :
    ({ saved with moments := next :: saved.moments } : Saved).final fs = saved.final next := by
  rw [Saved.final, Saved.final, List.getLast?_cons, Option.getD_some]

/-- A run stops at its first step, or takes it and goes on. -/
theorem run_cons_cases (s : Saving) (faulty : SaveStep → Bool) (step : SaveStep)
    (rest : List SaveStep) (fs : FileSystem) :
    (∃ stopped, (stopped = fs ∨ s.perform fs step = (stopped, false)) ∧
      s.run faulty (step :: rest) fs = ⟨[stopped, stopped.remove s.part], false⟩) ∨
    ∃ next, s.perform fs step = (next, true) ∧ s.run faulty (step :: rest) fs =
      { s.run faulty rest next with moments := next :: (s.run faulty rest next).moments } := by
  rw [run]
  cases faulty step with
  | true => exact .inl ⟨fs, .inl rfl, rfl⟩
  | false =>
    simp only [Bool.false_eq_true, if_false]
    rcases performed : s.perform fs step with ⟨next, _ | _⟩
    · exact .inl ⟨next, .inr rfl, rfl⟩
    · exact .inr ⟨next, rfl, rfl⟩

/-- A run that succeeds takes its first step and succeeds from there. -/
theorem run_cons (done : (s.run faulty (step :: rest) fs).succeeded = true) :
    ∃ next, s.perform fs step = (next, true) ∧ (s.run faulty rest next).succeeded = true ∧
      (s.run faulty (step :: rest) fs).final fs = (s.run faulty rest next).final next := by
  rcases s.run_cons_cases faulty step rest fs with ⟨stopped, -, run⟩ | ⟨next, performed, run⟩
  · rw [run] at done
    cases done
  · rw [run] at done ⊢
    exact ⟨next, performed, done, final_cons fs next⟩

/-- A step changes nothing but the document and its partial file. -/
theorem keepsBut_perform (done : s.perform fs step = (after, true)) :
    KeepsBut [s.part, s.target] fs after := by
  cases step with
  | makeDirectory =>
    obtain rfl : _ = after := congrArg Prod.fst done
    exact (fs.onlyMakes_makeDirectories _).keepsBut.mono (List.nil_subset _)
  | createPartial => exact (FileSystem.keepsBut_write (attempt_ok done)).mono (by simp)
  | write => exact (FileSystem.keepsBut_write (attempt_ok done)).mono (by simp)
  | flush =>
    cases done
    exact .refl
  | sync =>
    cases done
    exact .refl
  | rename => exact FileSystem.keepsBut_rename (attempt_ok done)

theorem keepsBut_run {steps : List SaveStep} (done : (s.run faulty steps fs).succeeded = true) :
    KeepsBut [s.part, s.target] fs ((s.run faulty steps fs).final fs) := by
  induction steps generalizing fs with
  | nil => exact .refl
  | cons step rest ih =>
    obtain ⟨next, performed, later, final⟩ := run_cons done
    rw [final]
    exact (keepsBut_perform performed).trans (ih later)

/-- A save that succeeds leaves its content in the place of the document. -/
theorem read?_run (done : (s.run faulty steps fs).succeeded = true) :
    ((s.run faulty steps fs).final fs).read? s.target = some s.content := by
  obtain ⟨a, -, done, final⟩ := run_cons done
  rw [steps, final]
  obtain ⟨b, -, done, final⟩ := run_cons done
  rw [final]
  obtain ⟨c, written, done, final⟩ := run_cons done
  rw [final]
  obtain ⟨d, flushed, done, final⟩ := run_cons done
  rw [final]
  obtain ⟨e, synced, done, final⟩ := run_cons done
  rw [final]
  obtain ⟨f, renamed, done, final⟩ := run_cons done
  rw [final]
  cases flushed
  cases synced
  exact FileSystem.read?_rename (FileSystem.read?_write (attempt_ok written)) (attempt_ok renamed)

end Saving

end Storyboard.Storage
