import Storyboard.Proofs.Storage.Atomic
import Storyboard.Proofs.Storage.Template
import Storyboard.Proofs.Text.Parts
import Storyboard.Proofs.Text.Token

/-!
# Saves stay in their directory

The id of a template is taken for a file name only where it names one entry of a directory. Then the
file of the template and its partial file lie side by side in the directory that is saved to, nothing
else changes but that directories are made on the way there, and whoever lists the directory does not
come upon the partial file.
-/

namespace Storyboard

namespace Storage

/-! ## Plain names -/

/-- A character that may stand anywhere in a file name: it separates nothing, names no drive and
controls no device. -/
def IsPlain (c : Char) : Prop := c ≠ '/' ∧ c ≠ '\\' ∧ c ≠ ':' ∧ Text.isControl c = false

instance : DecidablePred IsPlain := fun _ => inferInstanceAs (Decidable (_ ∧ _ ∧ _ ∧ _))

/-- A name that stands for one entry of a directory. -/
structure IsPlainName (name : String) : Prop where
  ne_empty : name ≠ ""
  ne_here : name ≠ "."
  ne_above : name ≠ ".."
  plain : ∀ c ∈ name.toList, IsPlain c

theorem isPlainName_of_length {name : String} (long : 2 < name.length)
    (plain : ∀ c ∈ name.toList, IsPlain c) : IsPlainName name := by
  refine ⟨?_, ?_, ?_, plain⟩ <;> rintro rfl <;> exact absurd long (by decide)

theorem isPlain_of_isAlphanum {c : Char} (alphanum : c.isAlphanum = true) : IsPlain c := by
  have within : (48 ≤ c.toNat ∧ c.toNat ≤ 57) ∨ (65 ≤ c.toNat ∧ c.toNat ≤ 90) ∨
      97 ≤ c.toNat ∧ c.toNat ≤ 122 := by
    have ranges : (decide (c.val ≥ 'A'.val ∧ c.val ≤ 'Z'.val) ||
        (decide (c.val ≥ 'a'.val) && decide (c.val ≤ 'z'.val)) ||
        (decide (c.val ≥ '0'.val) && decide (c.val ≤ '9'.val))) = true := alphanum
    simp only [Bool.or_eq_true, Bool.and_eq_true, decide_eq_true_eq, ge_iff_le,
      UInt32.le_iff_toNat_le, Char.reduceVal, UInt32.reduceToNat, Char.toNat_val] at ranges
    omega
  have ne {other : Char} (outside : ¬ ((48 ≤ other.toNat ∧ other.toNat ≤ 57) ∨
      (65 ≤ other.toNat ∧ other.toNat ≤ 90) ∨ 97 ≤ other.toNat ∧ other.toNat ≤ 122)) :
      c ≠ other := fun same => outside (same ▸ within)
  refine ⟨ne (by decide), ne (by decide), ne (by decide), ?_⟩
  simp only [Text.isControl, Bool.or_eq_false_iff, decide_eq_false_iff_not, Bool.and_eq_false_iff]
  omega

/-- The path that a text and a name write when they are joined: a name that begins at the root is a
path of its own. -/
def join (dir name : String) : String :=
  if name.toList.head? = some '/' then name
  else if dir = "" ∨ dir.toList.getLast? = some '/' then dir ++ name
  else dir ++ "/" ++ name

theorem ofText_append (dir name : String) :
    Path.ofText (dir ++ "/" ++ name) = Path.ofText dir ++ Path.ofText name := by
  have split : (dir ++ "/" ++ name).toList = dir.toList ++ '/' :: name.toList := by simp
  rw [Path.ofText, split, Text.splitAll_append, List.map_append, List.filter_append]
  rfl

theorem IsPlainName.ofText {name : String} (plain : IsPlainName name) :
    Path.ofText name = [name] := by
  have free : '/' ∉ name.toList := fun member => (plain.plain _ member).1 rfl
  rw [Path.ofText, Text.splitAll_of_notMem free, List.map_singleton, String.ofList_toList,
    List.filter_cons_of_pos (by simp [plain.ne_empty, plain.ne_here]), List.filter_nil]

/-- A plain name that is joined to a path is one more name along it. -/
theorem IsPlainName.ofText_join {name : String} (plain : IsPlainName name) (dir : String) :
    Path.ofText (join dir name) = Path.ofText dir ++ [name] := by
  have below : name.toList.head? ≠ some '/' := fun first =>
    (plain.plain _ (List.mem_of_head? first)).1 rfl
  rw [join, if_neg below]
  split
  · next ended =>
    rcases ended with rfl | last
    · rw [String.empty_append, plain.ofText]
      rfl
    · obtain ⟨before, split⟩ := List.getLast?_eq_some_iff.1 last
      obtain rfl : dir = String.ofList before ++ "/" := by
        rw [← String.toList_inj, split]
        simp
      have slash := ofText_append (String.ofList before) ""
      rw [String.append_empty] at slash
      rw [ofText_append, plain.ofText, slash]
      simp [Path.ofText, Text.splitAll]
  · rw [ofText_append, plain.ofText]

/-! ## Names of templates and of partial files -/

variable {id file part : String}

/-- A text that would lead out of a directory as a file name, or name something other than a file. -/
def LeadsAstray (name : String) : Prop :=
  "..".toList <:+: name.toList ∨ ∃ c ∈ name.toList, ¬ IsPlain c

theorem isUnsafe_iff {name : String} : isUnsafe name = true ↔ LeadsAstray name := by
  simp only [isUnsafe, LeadsAstray, IsPlain, Bool.or_eq_true, Text.contains_iff, List.any_eq_true,
    beq_iff_eq, ← Bool.not_eq_true]
  refine or_congr_right (exists_congr fun c => and_congr_right fun _ => ?_)
  tauto

/-- **What is refused as an id**: nothing but blanks, and what leads astray. -/
theorem templateFile_error_iff :
    (∃ fault, templateFile id = .error fault) ↔
      (∀ c ∈ id.toList, Text.isBlank c = true) ∨ LeadsAstray (Text.trim id) := by
  rw [← Text.trim_eq_empty_iff, ← isUnsafe_iff, ← String.isEmpty_iff]
  simp only [templateFile]
  split
  · simp_all
  · split <;> simp_all

/-- The characters of an accepted id, and with them those of the file name, are plain. -/
theorem isPlain_of_templateFile (made : templateFile id = .ok file) :
    ∀ c ∈ file.toList, IsPlain c := by
  obtain rfl := templateFile_ok made
  have accepted : ¬ LeadsAstray (Text.trim id) := by
    intro astray
    obtain ⟨fault, refused⟩ := templateFile_error_iff.2 (.inr astray)
    rw [made] at refused
    cases refused
  intro c member
  rw [String.toList_append] at member
  rcases List.mem_append.1 member with inside | ending
  · by_contra odd
    exact accepted (.inr ⟨c, inside, odd⟩)
  · have plain : (templateEnding.toList.all fun c => decide (IsPlain c)) = true := by decide
    exact of_decide_eq_true (List.all_eq_true.1 plain c ending)

theorem isPlainName_templateFile (made : templateFile id = .ok file) : IsPlainName file := by
  refine isPlainName_of_length ?_ (isPlain_of_templateFile made)
  have ending : templateEnding.length = 14 := rfl
  rw [templateFile_ok made, String.length_append]
  omega

theorem isPlainName_partialName (name : ∀ c ∈ file.toList, IsPlain c)
    (alphanum : ∀ c ∈ part.toList, c.isAlphanum = true) : IsPlainName (partialName file part) := by
  refine isPlainName_of_length ?_ fun c member => ?_
  · have ending : ".partial".length = 8 := rfl
    rw [partialName, String.length_append]
    omega
  · have dot : IsPlain '.' := by decide
    have plain : (".partial".toList.all fun c => decide (IsPlain c)) = true := by decide
    simp only [partialName, String.toList_append, List.mem_append] at member
    rcases member with (((first | inside) | point) | inside) | last
    · rwa [List.mem_singleton.1 first]
    · exact name c inside
    · rwa [List.mem_singleton.1 point]
    · exact isPlain_of_isAlphanum (alphanum c inside)
    · exact of_decide_eq_true (List.all_eq_true.1 plain c last)

/-! ## Listings -/

namespace FileSystem

theorem isDirectory_remove (fs : FileSystem) (dir : Path) (name : String) :
    (fs.remove (dir ++ [name])).isDirectory dir = fs.isDirectory dir := by
  rw [isDirectory, isDirectory, fs.node?_remove (by simp)]

/-- A directory without one of its entries has the others. -/
theorem entries_remove (fs : FileSystem) (dir : Path) (name : String) :
    (fs.remove (dir ++ [name])).entries dir =
      (fs.entries dir).filter fun other => other != name := by
  rw [entries, entries, remove, List.filter_filterMap, List.filterMap_filter]
  refine List.filterMap_congr ?_
  rintro ⟨path, node⟩ -
  dsimp only
  by_cases inside : path.dropLast = dir
  · subst inside
    rw [if_pos rfl]
    rcases List.eq_nil_or_concat path with rfl | ⟨before, last, rfl⟩
    · simp
    · by_cases same : last = name <;> simp [Option.filter, same]
  · rw [if_neg inside]
    simp

end FileSystem

/-- Files that are listed in another order have the same summaries. -/
theorem summariesOf_perm (fs : FileSystem) (dir : Path) {names names' : List String}
    (perm : names.Perm names') : (summariesOf fs dir names).Perm (summariesOf fs dir names') := by
  unfold summariesOf
  refine (List.mergeSort_perm _ _).trans (.trans ?_ (List.mergeSort_perm _ _).symm)
  exact (perm.filter _).filterMap _

/-- An entry of a directory makes no difference to which templates are found there. -/
structure PassedOver (fs : FileSystem) (dir : Path) (name : String) : Prop where
  /-- The entry is passed over wherever it is listed. -/
  passed : ∀ names, summariesOf (fs.remove (dir ++ [name])) dir
    (names.filter fun other => other != name) = summariesOf fs dir names
  /-- Both directories cannot be listed, or they are found to hold the same templates. -/
  listed : (summaries (fs.remove (dir ++ [name])) dir = .error .storage ∧
      summaries fs dir = .error .storage) ∨
    ∃ found found', summaries (fs.remove (dir ++ [name])) dir = .ok found ∧
      summaries fs dir = .ok found' ∧ found.Perm found'
  /-- They are found in the same order, if the directory gives the other names in the same order. -/
  ordered : (fs.disk.order dir ((fs.entries dir).filter fun other => other != name) =
      (fs.disk.order dir (fs.entries dir)).filter fun other => other != name) →
    summaries (fs.remove (dir ++ [name])) dir = summaries fs dir

/-- **Other files are not picked up**: only those of templates are read. -/
theorem passedOver (fs : FileSystem) (dir : Path) {name : String}
    (hidden : isTemplateFile name = false) : PassedOver fs dir name := by
  have passed (names : List String) : summariesOf (fs.remove (dir ++ [name])) dir
      (names.filter fun other => other != name) = summariesOf fs dir names := by
    have kept : (names.filter fun other => other != name).filter isTemplateFile =
        names.filter isTemplateFile := by
      rw [List.filter_filter]
      refine List.filter_congr fun other _ => ?_
      by_cases same : other = name
      · simp [same, hidden]
      · simp [same]
    have loaded : ∀ other ∈ names.filter isTemplateFile,
        load (fs.remove (dir ++ [name])) (dir ++ [other]) = load fs (dir ++ [other]) := by
      intro other member
      have ne : other ≠ name := by
        rintro rfl
        rw [(List.mem_filter.1 member).2] at hidden
        cases hidden
      rw [load, load, FileSystem.read?, FileSystem.read?, fs.node?_remove (by simpa using ne)]
    unfold summariesOf
    rw [kept, List.filterMap_congr fun other member => by rw [loaded other member]]
  cases directory : fs.isDirectory dir with
  | false =>
    have unlisted : summaries (fs.remove (dir ++ [name])) dir = .error .storage ∧
        summaries fs dir = .error .storage := by
      simp [summaries, FileSystem.list, fs.isDirectory_remove, directory]
    exact ⟨passed, .inl unlisted, fun _ => unlisted.1.trans unlisted.2.symm⟩
  | true =>
    have without : summaries (fs.remove (dir ++ [name])) dir =
        .ok (summariesOf (fs.remove (dir ++ [name])) dir
          (fs.disk.order dir ((fs.entries dir).filter fun other => other != name))) := by
      simp [summaries, FileSystem.list, fs.isDirectory_remove, fs.entries_remove, directory]
    have whole : summaries fs dir =
        .ok (summariesOf fs dir (fs.disk.order dir (fs.entries dir))) := by
      simp [summaries, FileSystem.list, directory]
    refine ⟨passed, .inr ⟨_, _, without, whole, ?_⟩, fun ordered => ?_⟩
    · rw [← passed]
      refine summariesOf_perm _ dir ((fs.disk.order_perm dir _).trans ?_)
      exact ((fs.disk.order_perm dir _).filter _).symm
    · rw [without, whole, ordered, passed]

/-! ## Saves -/

/-- A name is an entry of a directory: it is plain, and the path that it writes together with that of
the directory leads to the entry of this name. -/
structure IsEntry (dir name : String) : Prop where
  plain : IsPlainName name
  joined : Path.ofText (join dir name) = Path.ofText dir ++ [name]

/-- How a template is saved in a directory: which file it gets and what lies beside it meanwhile. -/
structure Confined (dir : String) (id file part : String) : Prop where
  entry : IsEntry dir file
  ending : templateEnding.toList <:+ file.toList
  partialEntry : IsEntry dir (partialName file part)
  apart : partialName file part ≠ file
  /-- Both files are in the directory, for every template with the id. -/
  saved : ∀ (fs : FileSystem) (faulty : SaveStep → Bool) (t : Template Float), t.id = id →
    saveIn fs faulty (Path.ofText dir) t part =
      .ok (Path.ofText (join dir file),
        Saving.run ⟨Path.ofText (join dir file), Path.ofText (join dir (partialName file part)),
          t.toText⟩ faulty Saving.steps fs)
  /-- At no moment has anything changed besides, but that directories are made on the way. -/
  spared : ∀ (fs : FileSystem) (faulty : SaveStep → Bool) (content : String),
    let job : Saving := ⟨Path.ofText (join dir file), Path.ofText (join dir (partialName file part)),
      content⟩
    ∀ moment ∈ (job.run faulty Saving.steps fs).moments, ∀ other, other ≠ job.target →
      other ≠ job.part → moment.node? other = fs.node? other ∨
        other ∈ FileSystem.prefixes (Path.ofText dir) ∧ fs.node? other = none ∧
          moment.node? other = some .directory
  /-- Whatever has got into the partial file, those who list the directory pass it over. -/
  hidden : ∀ fs, PassedOver fs (Path.ofText dir) (partialName file part)

theorem confined_of_templateFile (dir : String) (made : templateFile id = .ok file)
    (alphanum : ∀ c ∈ part.toList, c.isAlphanum = true) : Confined dir id file part := by
  have plain := isPlainName_templateFile made
  have plain' := isPlainName_partialName plain.plain alphanum
  have joined := plain.ofText_join dir
  have joined' := plain'.ofText_join dir
  refine ⟨⟨plain, joined⟩, ?_, ⟨plain', joined'⟩, partialName_ne file part, ?_, ?_, ?_⟩
  · rw [templateFile_ok made, String.toList_append]
    exact List.suffix_append _ _
  · rintro fs faulty t rfl
    simp only [saveIn, made, save, joined, joined', List.getLast?_concat, List.dropLast_concat]
    rfl
  · intro fs faulty content job moment member other notFile notPart
    have apart : job.Apart := by
      refine ⟨fun same => partialName_ne file part ?_, ?_⟩
      · simpa [job, joined, joined'] using same
      · simp [job, joined']
    have spares := ((Saving.atomic_run apart faulty fs).whole moment member moment
      fun _ _ => rfl).2 other notFile notPart
    simpa [job, joined] using spares
  · intro fs
    exact passedOver fs (Path.ofText dir) (isTemplateFile_partialName file part)

/-- **Saves stay in their directory**: an id is refused just where nothing but blanks is in it or
where it leads astray. Of any other the file is an entry of the directory, and so is the partial file,
which carries a fresh id of letters and digits. -/
theorem saves_confined (dir id part : String)
    (alphanum : ∀ c ∈ part.toList, c.isAlphanum = true) :
    ((∃ fault, templateFile id = .error fault) ↔
      (∀ c ∈ id.toList, Text.isBlank c = true) ∨ LeadsAstray (Text.trim id)) ∧
    ∀ file, templateFile id = .ok file → Confined dir id file part :=
  ⟨templateFile_error_iff, fun _ made => confined_of_templateFile dir made alphanum⟩

/-- A template with blanks around its id is saved in a directory two levels up. -/
theorem saves_confined_harbour :
    templateFile " harbour.v2 " = .ok "harbour.v2.template.json" ∧
      Confined "../shared/" " harbour.v2 " "harbour.v2.template.json" "01HZX3V6ZK8M4Q2W7E9R5T1Y0U" ∧
      (partialName "harbour.v2.template.json" "01HZX3V6ZK8M4Q2W7E9R5T1Y0U") =
        ".harbour.v2.template.json.01HZX3V6ZK8M4Q2W7E9R5T1Y0U.partial" ∧
      ∃ fault, templateFile "a/b" = .error fault := by
  have alphanum : ("01HZX3V6ZK8M4Q2W7E9R5T1Y0U".toList.all Char.isAlphanum) = true := by decide
  have made : templateFile " harbour.v2 " = .ok "harbour.v2.template.json" := by decide
  obtain ⟨_, confined⟩ := saves_confined "../shared/" " harbour.v2 " "01HZX3V6ZK8M4Q2W7E9R5T1Y0U"
    (List.all_eq_true.1 alphanum)
  exact ⟨made, confined _ made, by decide, _, rfl⟩

end Storage

end Storyboard
