import Mathlib.Data.List.SplitBy
import Mathlib.Data.List.TakeWhile
import Storyboard.Transcript

/-!
# Groups of words

Grouping cuts a list of words into runs and loses none of them: a run ends at each word that ends in
a break character, and with the last word. The words of a run are joined by single spaces, and where
the last of them ends in a break, the joined text ends as that word does; a blank word ends no run.
So groups between many breaks can be grouped again between some of them: sentences are whole phrases.
-/

namespace Storyboard.Segment

variable {τ : Type} {breaks fine : List Char} {s word : Segment τ}
  {words before after run : List (Segment τ)} {unfinished : Option (Segment τ)}

/-! ## Where texts end -/

/-- The last character of a text, blanks at its end aside. -/
theorem getLast?_dropBlankEnd (cs : List Char) :
    (Text.dropBlankEnd cs).getLast? = cs.reverse.find? fun c => !Text.isBlank c := by
  rw [Text.dropBlankEnd, List.getLast?_reverse, Text.dropBlank, List.find?_not_eq_head?_dropWhile]

theorem endsIn_iff :
    word.endsIn breaks = true ↔ ∃ c ∈ breaks, (Text.trimEnd word.text).toList.getLast? = some c := by
  rw [endsIn, Option.any_eq_true, Text.trimEnd, String.toList_ofList]
  exact ⟨fun ⟨c, last, inside⟩ => ⟨c, List.contains_iff_mem.1 inside, last⟩,
    fun ⟨c, inside, last⟩ => ⟨c, last, List.contains_iff_mem.2 inside⟩⟩

theorem endsIn_mono (finer : breaks ⊆ fine) (ends : word.endsIn breaks = true) :
    word.endsIn fine = true := by
  obtain ⟨c, inside, last⟩ := endsIn_iff.1 ends
  exact endsIn_iff.2 ⟨c, finer inside, last⟩

/-! ## One more word -/

/-- A group with one more word: the unfinished one, or a new one where nothing is unfinished. -/
def join (unfinished : Option (Segment τ)) (word : Segment τ) : Segment τ :=
  unfinished.elim word (·.extend word)

theorem groupFrom_cons (unfinished : Option (Segment τ)) (word : Segment τ)
    (words : List (Segment τ)) :
    groupFrom breaks unfinished (word :: words) =
      if word.endsIn breaks then join unfinished word :: groupFrom breaks none words
      else groupFrom breaks (some (join unfinished word)) words := rfl

/-- With a word that ends in some break a group ends as the word does. -/
theorem endsIn_join (ends : word.endsIn fine = true) (unfinished : Option (Segment τ)) :
    (join unfinished word).endsIn breaks = word.endsIn breaks := by
  cases unfinished with
  | none => rfl
  | some group =>
    simp only [endsIn, getLast?_dropBlankEnd] at ends ⊢
    obtain ⟨c, last, _⟩ := (Option.any_eq_true _ _).1 ends
    simp only [join, Option.elim_some, extend, String.toList_append, List.reverse_append,
      List.find?_append, last, Option.some_or]

/-- Words are joined from the left or the right alike. -/
theorem join_join (outer inner : Option (Segment τ)) (word : Segment τ) :
    join outer (join inner word) = join (inner.elim outer fun s => some (join outer s)) word := by
  cases inner with
  | none => rfl
  | some s => cases outer <;> simp [join, extend, String.append_assoc]

/-! ## Runs -/

/-- A segment is a run of words: their texts joined by single spaces, from the start of the first to
the end of the last. -/
structure Joins (run : List (Segment τ)) (s : Segment τ) : Prop where
  text : s.text = " ".intercalate (run.map (·.text))
  start : run.head?.map (·.start) = some s.start
  finish : run.getLast?.map (·.finish) = some s.finish

theorem joins_singleton (word : Segment τ) : Joins [word] word :=
  ⟨String.intercalate_singleton.symm, rfl, rfl⟩

theorem Joins.ne_nil (joins : Joins run s) : run ≠ [] := by
  rintro rfl
  cases joins.start

theorem Joins.extend (joins : Joins run s) (word : Segment τ) :
    Joins (run ++ [word]) (s.extend word) where
  text := by
    have some : run.map (·.text) ≠ [] := by simpa using joins.ne_nil
    rw [List.map_append, List.map_singleton, String.intercalate_append_of_ne_nil some (by simp),
      String.intercalate_singleton, ← joins.text]
    rfl
  start := by
    rw [List.head?_append_of_ne_nil _ joins.ne_nil]
    exact joins.start
  finish := by
    rw [List.getLast?_append, List.getLast?_singleton]
    rfl

/-- What is unfinished is a run of words without a break, which is empty where nothing is. -/
structure Unfinished (breaks : List Char) (run : List (Segment τ)) (group : Option (Segment τ)) :
    Prop where
  joins : group.elim (run = []) (Joins run)
  inside : ∀ word ∈ run, word.endsIn breaks = false

theorem unfinished_none : Unfinished (τ := τ) breaks [] none := ⟨rfl, by simp⟩

theorem Unfinished.join (holds : Unfinished breaks run unfinished) (word : Segment τ) :
    Joins (run ++ [word]) (join unfinished word) := by
  cases unfinished with
  | none =>
    obtain rfl : run = [] := holds.joins
    exact joins_singleton word
  | some group => exact Joins.extend holds.joins word

/-- A list of words cut behind each word that ends in a break. -/
def runs (breaks : List Char) (words : List (Segment τ)) : List (List (Segment τ)) :=
  words.splitBy fun word _ => !word.endsIn breaks

theorem runs_append_of_endsIn (ends : word.endsIn breaks = true) :
    runs breaks (before ++ word :: after) = runs breaks (before ++ [word]) ++ runs breaks after := by
  rw [List.append_cons]
  exact List.splitBy_append fun _ last _ _ => by simp_all

/-- Words of which none but the last ends in a break are one run. -/
theorem runs_singleton (inside : ∀ word ∈ before, word.endsIn breaks = false) :
    runs breaks (before ++ [word]) = [before ++ [word]] := by
  refine List.splitBy_of_isChain (by simp) ?_
  induction before with
  | nil => exact List.isChain_singleton _
  | cons first rest ih =>
    rw [List.forall_mem_cons] at inside
    rw [List.cons_append, List.isChain_cons]
    exact ⟨fun _ _ => by rw [inside.1]; rfl, ih inside.2⟩

/-- **The loop cuts**: the groups to come are the runs of the words that are unfinished and of those
behind them. -/
theorem groupFrom_joins (holds : Unfinished breaks run unfinished) :
    List.Forall₂ Joins (runs breaks (run ++ words)) (groupFrom breaks unfinished words) := by
  induction words generalizing run unfinished with
  | nil =>
    rw [List.append_nil, groupFrom]
    cases unfinished with
    | none =>
      obtain rfl : run = [] := holds.joins
      exact .nil
    | some group =>
      have joins : Joins run group := holds.joins
      obtain ⟨before, word, rfl⟩ := List.eq_nil_or_concat' run |>.resolve_left joins.ne_nil
      rw [runs_singleton fun other member => holds.inside other (List.mem_append_left _ member)]
      exact .cons joins .nil
  | cons word rest ih =>
    have joins := holds.join word
    rw [groupFrom_cons]
    cases ends : word.endsIn breaks with
    | true =>
      rw [runs_append_of_endsIn ends, runs_singleton holds.inside]
      exact .cons joins (ih unfinished_none)
    | false =>
      rw [List.append_cons]
      refine ih ⟨joins, fun other member => ?_⟩
      rcases List.mem_append.1 member with earlier | last
      · exact holds.inside other earlier
      · rwa [List.mem_singleton.1 last]

/-- A run ends at a word that ends in a break and at the last word, and nowhere else. -/
theorem runs_end_iff (split : words = before ++ word :: after) :
    (∃ ended rest, runs breaks words = ended ++ rest ∧ ended.flatten = before ++ [word]) ↔
      word.endsIn breaks = true ∨ after = [] := by
  have whole : (runs breaks words).flatten = words := List.flatten_splitBy _ _
  constructor
  · rintro ⟨ended, rest, cut, upTo⟩
    rw [cut, List.flatten_append, upTo, split, List.append_assoc, List.append_cancel_left_eq]
      at whole
    cases rest with
    | nil => exact .inr (List.cons.inj whole).2.symm
    | cons next rest =>
      refine .inl ?_
      -- the word is the last of the last run that has ended, and another run comes behind that
      have between := List.isChain_getLast_head_splitBy (fun w _ => !w.endsIn breaks) words
      change List.IsChain _ (runs breaks words) at between
      rw [cut, List.isChain_append] at between
      obtain ⟨earlier, last, rfl⟩ := List.eq_nil_or_concat' ended |>.resolve_left (by
        rintro rfl
        simp at upTo)
      obtain ⟨some, _, ends⟩ := between.2.2 last (by simp) next (by simp)
      have same : last.getLast some = word := by
        simpa [List.getLast?_append, List.getLast?_eq_getLast_of_ne_nil some] using
          congrArg List.getLast? upTo
      simpa [same] using ends
  · rintro (ends | rfl)
    · refine ⟨runs breaks (before ++ [word]), runs breaks after, ?_, List.flatten_splitBy _ _⟩
      rw [split, runs_append_of_endsIn ends]
    · exact ⟨runs breaks words, [], (List.append_nil _).symm, whole.trans split⟩

/-! ## Groups of groups -/

/-- Groups between many breaks, grouped again between some of these, where something is unfinished
on either level: what is unfinished inside comes behind what is unfinished outside. -/
theorem groupFrom_groupFrom (finer : breaks ⊆ fine) (outer inner : Option (Segment τ)) :
    groupFrom breaks outer (groupFrom fine inner words) =
      groupFrom breaks (inner.elim outer fun s => some (join outer s)) words := by
  induction words generalizing outer inner with
  | nil =>
    cases inner with
    | none => rfl
    | some s =>
      rw [groupFrom, Option.toList_some, groupFrom_cons]
      split <;> rfl
  | cons word rest ih =>
    rw [groupFrom_cons, groupFrom_cons, ← join_join]
    by_cases ends : word.endsIn fine = true
    · rw [if_pos ends, groupFrom_cons, endsIn_join ends, ih, ih]
      rfl
    · have goesOn : ¬ word.endsIn breaks = true := fun coarse => ends (endsIn_mono finer coarse)
      rw [if_neg ends, if_neg goesOn, ih]
      rfl

/-- **Grouping loses nothing, and phrases refine sentences.** The words are cut into runs none of
which is empty, one for each group; a run ends at each word whose text, blanks at its end aside, ends
in a break, at the last word, and nowhere else. And groups between many breaks, grouped again
between some of these, are the groups of the words between those. -/
theorem group_cut (words : List (Segment τ)) (breaks : List Char) :
    (∃ cut : List (List (Segment τ)), cut.flatten = words ∧ [] ∉ cut ∧
      List.Forall₂ Joins cut (group breaks words) ∧
      ∀ before word after, words = before ++ word :: after →
        ((∃ ended rest, cut = ended ++ rest ∧ ended.flatten = before ++ [word]) ↔
          (∃ c ∈ breaks, (Text.trimEnd word.text).toList.getLast? = some c) ∨ after = [])) ∧
    (∀ fine, breaks ⊆ fine → group breaks (group fine words) = group breaks words) ∧
    Granularity.sentence.segments words =
      group sentenceBreaks (Granularity.phrase.segments words) := by
  have refines : ∀ {coarse fine : List Char}, coarse ⊆ fine →
      group coarse (group fine words) = group coarse words :=
    fun finer => groupFrom_groupFrom finer none none
  refine ⟨⟨runs breaks words, List.flatten_splitBy _ _, List.nil_notMem_splitBy _ _,
    groupFrom_joins unfinished_none, fun before word after split => ?_⟩, fun _ => refines,
    (refines ?_).symm⟩
  · rw [runs_end_iff split, endsIn_iff]
  · decide

/-- Words of which some are blank, one ends in a break before blanks, and the last ends in none. -/
def salutation : List (Segment Nat) :=
  [⟨"Well,", 0, 3⟩, ⟨" ", 3, 4⟩, ⟨"hello.  ", 5, 8⟩, ⟨"", 8, 9⟩, ⟨"Dear", 9, 10⟩, ⟨"friends", 10, 11⟩,
    ⟨"\t", 12, 13⟩]

theorem group_salutation :
    sentenceBreaks ⊆ phraseBreaks ∧
    group sentenceBreaks (group phraseBreaks salutation) = group sentenceBreaks salutation ∧
    (group phraseBreaks salutation).map (·.text) = ["Well,", "  hello.  ", " Dear friends \t"] ∧
    (group sentenceBreaks salutation).map (fun s => (s.text, s.start, s.finish)) =
      [("Well,   hello.  ", 0, 8), (" Dear friends \t", 8, 13)] := by
  have finer : sentenceBreaks ⊆ phraseBreaks := by decide
  exact ⟨finer, (group_cut salutation sentenceBreaks).2.1 phraseBreaks finer, by decide, by decide⟩

end Storyboard.Segment
