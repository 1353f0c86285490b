import Storyboard.Proofs.Steps
import Storyboard.Proofs.Storage.FileSystem
import Storyboard.Storage.Template

/-!
# Templates beside each other

A template is saved under its id without the blanks around it. Templates whose ids differ in more
than that do not disturb each other: each is read back as it was saved. Where they do not, the later
one takes the place of the earlier one.
-/

namespace Storyboard.Storage

variable {fs : FileSystem} {faulty faulty' : SaveStep → Bool} {dir path path' : Path}
  {t u : Template Float} {id id' : String} {saved saved' : Saved}

/-! ## File names -/

theorem templateFile_ok {file : String} (made : templateFile id = .ok file) :
    file = Text.trim id ++ templateEnding := by
  unfold templateFile at made
  dsimp only at made
  split at made
  · cases made
  · split at made
    · cases made
    · exact (Except.ok.inj made).symm

theorem isTemplateFile_append (name : String) : isTemplateFile (name ++ templateEnding) = true := by
  simp [isTemplateFile]

/-- The name of a partial file is not that of a template. -/
theorem isTemplateFile_partialName (name id : String) :
    isTemplateFile (partialName name id) = false := by
  rw [← Bool.not_eq_true, isTemplateFile, List.isSuffixOf_iff_suffix]
  intro ending
  have own : ".partial".toList <:+ (partialName name id).toList := by
    rw [partialName, String.toList_append]
    exact List.suffix_append _ _
  exact absurd (List.suffix_of_suffix_length_le own ending (by decide)) (by decide)

/-! ## Saves -/

/-- What a save of a template has done. -/
structure SavedIn (dir : Path) (t : Template Float) (place : Path) (before after : FileSystem) :
    Prop where
  named : place = dir ++ [Text.trim t.id ++ templateEnding]
  content : after.read? place = some t.toText
  /-- The files of other templates are left alone. -/
  others : ∀ other name content, other ≠ place → other.getLast? = some name →
    isTemplateFile name = true → before.read? other = some content →
    after.read? other = some content

theorem savedIn_saveIn (done : saveIn fs faulty dir t id = .ok (path, saved))
    (succeeded : saved.succeeded = true) : SavedIn dir t path fs (saved.final fs) := by
  obtain ⟨file, named, made⟩ := bind_ok_iff.1 done
  obtain rfl := templateFile_ok named
  obtain ⟨rfl, rfl⟩ := Prod.mk.inj (pure_ok.1 made)
  have last : (dir ++ [Text.trim t.id ++ templateEnding]).getLast? =
      some (Text.trim t.id ++ templateEnding) := List.getLast?_concat
  unfold save at succeeded ⊢
  rw [last] at succeeded ⊢
  dsimp only at succeeded ⊢
  refine ⟨rfl, Saving.read?_run succeeded, fun other name content ne ends template read => ?_⟩
  refine (Saving.keepsBut_run succeeded).read? ?_ read
  intro changed
  rcases List.mem_cons.1 changed with rfl | changed
  · rw [List.getLast?_concat] at ends
    obtain rfl := Option.some.inj ends
    rw [isTemplateFile_partialName] at template
    cases template
  · exact ne (List.mem_singleton.1 changed)

theorem exists_of_survivesExchange (survives : t.survivesExchange = true) :
    ∃ back, Template.ofText t.toText = .ok back ∧ (back == t) = true := by
  unfold Template.survivesExchange at survives
  split at survives
  · next back read => exact ⟨back, read, survives⟩
  · cases survives

/-- **Templates beside each other**: of two templates saved one after the other in a directory the
later one is read back from its place, and from the place of the earlier one that one, unless their
ids differ by the blanks around them at most. What is read back is the same template as long as its
text gives it again. -/
theorem load_saveIn (first : saveIn fs faulty dir t id = .ok (path, saved))
    (succeeded : saved.succeeded = true)
    (second : saveIn (saved.final fs) faulty' dir u id' = .ok (path', saved'))
    (succeeded' : saved'.succeeded = true) :
    load (saved'.final (saved.final fs)) path' = Template.ofText u.toText ∧
      load (saved'.final (saved.final fs)) path =
        Template.ofText (if Text.trim t.id = Text.trim u.id then u else t).toText ∧
      (u.survivesExchange = true →
        ∃ back, load (saved'.final (saved.final fs)) path' = .ok back ∧ (back == u) = true) ∧
      (Text.trim t.id ≠ Text.trim u.id → t.survivesExchange = true →
        ∃ back, load (saved'.final (saved.final fs)) path = .ok back ∧ (back == t) = true) := by
  have earlier := savedIn_saveIn first succeeded
  have later := savedIn_saveIn second succeeded'
  have here : load (saved'.final (saved.final fs)) path' = Template.ofText u.toText := by
    rw [load, later.content]
  have apart (other : Text.trim t.id ≠ Text.trim u.id) :
      load (saved'.final (saved.final fs)) path = Template.ofText t.toText := by
    have kept := later.others path _ t.toText (fun same => other ?_)
      (by rw [earlier.named]; exact List.getLast?_concat) (isTemplateFile_append _) earlier.content
    · rw [load, kept]
    · rw [earlier.named, later.named] at same
      simpa using same
  refine ⟨here, ?_, fun survives => ?_, fun other survives => ?_⟩
  · split
    · next same =>
      have samePath : path = path' := by rw [earlier.named, later.named, same]
      rw [samePath, here]
    · next other => exact apart other
  · rw [here]
    exact exists_of_survivesExchange survives
  · rw [apart other]
    exact exists_of_survivesExchange survives

/-- A template with nothing in it yet. -/
def announced (id name : String) : Template Float := Template.new id name .landscape ⟨0, 0⟩

theorem load_announced :
    ∃ path path' saved saved',
      saveIn (.empty .plain) (fun _ => false) ["library"] (announced "promo" "First") "a" =
        .ok (path, saved) ∧ saved.succeeded = true ∧
      saveIn (saved.final (.empty .plain)) (fun _ => false) ["library"] (announced "card" "Second")
        "b" = .ok (path', saved') ∧ saved'.succeeded = true ∧
      load (saved'.final (saved.final (.empty .plain))) path' =
        Template.ofText (announced "card" "Second").toText ∧
      ∃ back, load (saved'.final (saved.final (.empty .plain))) path = .ok back ∧
        (back == announced "promo" "First") = true := by
  refine ⟨_, _, _, _, rfl, rfl, rfl, rfl, ?_⟩
  have both := @load_saveIn (.empty .plain) (fun _ => false) (fun _ => false) ["library"] _ _
    (announced "promo" "First") (announced "card" "Second") "a" "b" _ _ rfl rfl rfl rfl
  obtain ⟨later, _, _, earlier⟩ := both
  exact ⟨later, earlier (by decide) (by decide +kernel)⟩

/-- A blank before the id does not keep two templates apart: not both of them are read back. -/
theorem not_apart_announced :
    ∃ path path' saved saved',
      saveIn (.empty .plain) (fun _ => false) ["library"] (announced "promo" "First") "a" =
        .ok (path, saved) ∧ saved.succeeded = true ∧
      saveIn (saved.final (.empty .plain)) (fun _ => false) ["library"] (announced " promo" "Second") "b" =
        .ok (path', saved') ∧ saved'.succeeded = true ∧
      (saved'.final (saved.final (.empty .plain))).read? path = some (announced " promo" "Second").toText ∧
      ¬ (load (saved'.final (saved.final (.empty .plain))) path = .ok (announced "promo" "First") ∧
        load (saved'.final (saved.final (.empty .plain))) path' = .ok (announced " promo" "Second")) := by
  refine ⟨_, _, _, _, rfl, rfl, rfl, rfl, rfl, fun ⟨first, second⟩ => ?_⟩
  have same := Except.ok.inj (first.symm.trans second)
  exact absurd (congrArg Template.id same) (by decide)

end Storyboard.Storage
