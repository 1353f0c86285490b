import Mathlib.Data.List.Chain
import Mathlib.Logic.Relation
import Storyboard.Proofs.Timeline.Dependency
import Storyboard.Validation.Waiting

/-!
# Walks along links

The depth-first walk finds a circle of links exactly when there is one. What a step can do is a
relation with four cases. The stack is a path of links; a link back into it closes a circle. As long
as no circle was closed, every chain of links from an element that was left ends, because all links
of that element were followed before and none of them led back into the path.
-/

namespace Storyboard.Validation

variable {all : List (String × List String)}

/-- An element has a link to another one. -/
def Waits (all : List (String × List String)) (id link : String) : Prop := link ∈ linksOf all id

/-- Every chain of links from an element ends. -/
def Ends (all : List (String × List String)) (id : String) : Prop :=
  Acc (Function.swap (Waits all)) id

/-- A chain of links that begins with an element and whose last element has a link back to it. -/
structure Circle (all : List (String × List String)) (chain : List String) (back : String) :
    Prop where
  first : chain.head? = some back
  chained : chain.IsChain (Waits all)
  closing : ∀ last, chain.getLast? = some last → Waits all last back

/-- Every link leads to a listed element. -/
def Complete (all : List (String × List String)) : Prop :=
  ∀ entry ∈ all, ∀ link ∈ entry.2, link ∈ all.map (·.1)

theorem mem_linksOf {id link : String} :
    link ∈ linksOf all id ↔ ∃ entry ∈ all, entry.1 = id ∧ link ∈ entry.2 := by
  simp only [linksOf, List.mem_flatMap, List.mem_filter, beq_iff_eq, and_assoc]

theorem Waits.source {id link : String} (waits : Waits all id link) : id ∈ all.map (·.1) := by
  obtain ⟨entry, member, rfl, _⟩ := mem_linksOf.1 waits
  exact List.mem_map_of_mem member

theorem Waits.target (complete : Complete all) {id link : String} (waits : Waits all id link) :
    link ∈ all.map (·.1) := by
  obtain ⟨entry, member, _, inside⟩ := mem_linksOf.1 waits
  exact complete entry member link inside

/-- Whoever is on a circle waits for itself. -/
theorem Circle.transGen {chain : List String} {back : String} (circle : Circle all chain back) :
    Relation.TransGen (Waits all) back back := by
  obtain ⟨first, chained, closing⟩ := circle
  match chain, first with
  | back :: rest, rfl =>
    have path := List.relationReflTransGen_of_exists_isChain_cons rest chained rfl
    refine Relation.TransGen.tail' path (closing _ ?_)
    exact List.getLast?_eq_some_getLast _

namespace Walk

/-- The elements on the path, the latest first. -/
def path (w : Walk) : List String := w.stack.map (·.1)

/-- What one step can do. -/
inductive Step (all : List (String × List String)) : Walk → Walk → Prop where
  /-- All links of the latest element were followed, and the element is left. -/
  | leave {id : String} {stack : List (String × List String)} {entered : List String}
      {circles : List (List String × String)} :
      Step all ⟨(id, []) :: stack, entered, circles⟩ ⟨stack, entered, circles⟩
  /-- The next link leads back into the path. -/
  | close {id link : String} {rest : List String} {stack : List (String × List String)}
      {entered : List String} {circles : List (List String × String)} :
      link ∈ id :: stack.map (·.1) →
      Step all ⟨(id, link :: rest) :: stack, entered, circles⟩
        ⟨(id, rest) :: stack, entered,
          circles ++ [(pathFrom ⟨(id, rest) :: stack, entered, circles⟩ link, link)]⟩
  /-- The next link leads to an element that was left before. -/
  | pass {id link : String} {rest : List String} {stack : List (String × List String)}
      {entered : List String} {circles : List (List String × String)} :
      link ∉ id :: stack.map (·.1) → link ∈ entered →
      Step all ⟨(id, link :: rest) :: stack, entered, circles⟩
        ⟨(id, rest) :: stack, entered, circles⟩
  /-- The next link leads to a new element, which is entered. -/
  | enter {id link : String} {rest : List String} {stack : List (String × List String)}
      {entered : List String} {circles : List (List String × String)} :
      link ∉ id :: stack.map (·.1) → link ∉ entered →
      Step all ⟨(id, link :: rest) :: stack, entered, circles⟩
        ⟨(link, linksOf all link) :: (id, rest) :: stack, link :: entered, circles⟩

/-- The stack is a path of links without a repetition, and the circles found are circles. -/
structure Sound (all : List (String × List String)) (w : Walk) : Prop where
  chained : w.path.IsChain (Function.swap (Waits all))
  once : w.path.Nodup
  rest : ∀ entry ∈ w.stack, entry.2 ⊆ linksOf all entry.1
  listed : ∀ id ∈ w.path, id ∈ w.entered
  real : ∀ circle ∈ w.circles, Circle all circle.1 circle.2

/-- The links of each element on a path are to be followed, lead on along the path, or were followed
to their ends. -/
def Followed (all : List (String × List String)) :
    List String → List (String × List String) → Prop
  | _, [] => True
  | above, entry :: below =>
    (∀ link ∈ linksOf all entry.1, link ∈ entry.2 ∨ link ∈ above ∨ Ends all link) ∧
      Followed all (entry.1 :: above) below

/-- What was left does not lead to a circle. -/
structure Explored (all : List (String × List String)) (w : Walk) : Prop where
  ends : ∀ id ∈ w.entered, id ∉ w.path → Ends all id
  followed : Followed all [] w.stack

theorem step_of_ne_nil (all : List (String × List String)) {w : Walk} (walking : w.stack ≠ []) :
    Step all w (w.step all) := by
  obtain ⟨stack, entered, circles⟩ := w
  match stack, walking with
  | (id, []) :: stack, _ => exact .leave
  | (id, link :: rest) :: stack, _ =>
    simp only [step, List.any_cons, List.any_eq_true, beq_iff_eq, Bool.or_eq_true,
      List.contains_iff_mem]
    by_cases inside : link ∈ id :: stack.map (·.1)
    · have back : id = link ∨ ∃ entry ∈ stack, entry.1 = link := by
        simpa [eq_comm] using inside
      rw [if_pos back]
      exact .close inside
    · have onwards : ¬ (id = link ∨ ∃ entry ∈ stack, entry.1 = link) := by
        simpa [eq_comm] using inside
      rw [if_neg onwards]
      by_cases known : link ∈ entered
      · rw [if_pos known]
        exact .pass inside known
      · rw [if_neg known]
        exact .enter inside known

/-! ## The path -/

/-- The part of the path from an element on it is a chain of links up to the latest element. -/
theorem circle_of_back {id link : String} {rest : List String}
    {stack : List (String × List String)} {entered : List String}
    {circles : List (List String × String)}
    (chained : (id :: stack.map (·.1)).IsChain (Function.swap (Waits all)))
    (back : link ∈ id :: stack.map (·.1)) (waits : Waits all id link) :
    Circle all (pathFrom ⟨(id, rest) :: stack, entered, circles⟩ link) link := by
  have whole : pathFrom ⟨(id, rest) :: stack, entered, circles⟩ link =
      (((id :: stack.map (·.1)).takeWhile (· != link)) ++ [link]).reverse := rfl
  obtain ⟨above, below, split, fresh⟩ := List.eq_append_cons_of_mem back
  have before : (id :: stack.map (·.1)).takeWhile (· != link) = above := by
    rw [split, List.takeWhile_append_of_pos]
    · simp
    · intro other member
      have : other ≠ link := fun same => fresh (same ▸ member)
      simpa using this
  have start : (above ++ [link]).head? = some id := by
    have := congrArg List.head? split
    cases above <;> simp_all
  rw [whole, before]
  refine ⟨by simp, ?_, ?_⟩
  · rw [List.isChain_reverse]
    rw [split] at chained
    exact chained.prefix ⟨below, by simp⟩
  · intro last final
    rw [List.getLast?_reverse, start] at final
    exact Option.some.inj final ▸ waits

/-! ## One step -/

/-- A step keeps the path a path, and a circle that it closes is one. -/
theorem Sound.step {w v : Walk} (sound : Sound all w) (step : Step all w v) : Sound all v := by
  obtain ⟨chained, once, rest, listed, real⟩ := sound
  have moved : ∀ {id link : String} {later : List String} {stack : List (String × List String)},
      (∀ entry ∈ (id, link :: later) :: stack, entry.2 ⊆ linksOf all entry.1) →
      Waits all id link ∧ ∀ entry ∈ (id, later) :: stack, entry.2 ⊆ linksOf all entry.1 := by
    intro id link later stack rest
    obtain ⟨here, others⟩ := List.forall_mem_cons.1 rest
    exact ⟨here List.mem_cons_self,
      List.forall_mem_cons.2 ⟨fun _ member => here (List.mem_cons_of_mem _ member), others⟩⟩
  cases step with
  | leave =>
    exact ⟨chained.tail, once.of_cons,
      fun entry member => rest entry (List.mem_cons_of_mem _ member),
      fun id member => listed id (List.mem_cons_of_mem _ member), real⟩
  | close back =>
    obtain ⟨waits, rest⟩ := moved rest
    refine ⟨chained, once, rest, listed, fun circle member => ?_⟩
    rcases List.mem_append.1 member with earlier | new
    · exact real circle earlier
    · obtain rfl := List.mem_singleton.1 new
      exact circle_of_back chained back waits
  | pass => exact ⟨chained, once, (moved rest).2, listed, real⟩
  | enter onwards fresh =>
    obtain ⟨waits, rest⟩ := moved rest
    refine ⟨List.isChain_cons_cons.2 ⟨waits, chained⟩, List.nodup_cons.2 ⟨onwards, once⟩,
      List.forall_mem_cons.2 ⟨fun _ member => member, rest⟩, ?_, real⟩
    intro other member
    rcases List.mem_cons.1 member with rfl | member
    · exact List.mem_cons_self
    · exact List.mem_cons_of_mem _ (listed other member)

theorem Followed.mono {stack : List (String × List String)} {above above' : List String}
    (followed : Followed all above stack) (more : ∀ id ∈ above, id ∈ above' ∨ Ends all id) :
    Followed all above' stack := by
  induction stack generalizing above above' with
  | nil => trivial
  | cons entry below ih =>
    obtain ⟨here, others⟩ := followed
    refine ⟨fun link waits => ?_, ih others ?_⟩
    · rcases here link waits with later | member | ends
      · exact .inl later
      · exact .inr (more link member)
      · exact .inr (.inr ends)
    · intro id member
      rcases List.mem_cons.1 member with rfl | member
      · exact .inl List.mem_cons_self
      · exact (more id member).imp_left (List.mem_cons_of_mem _)

/-- A step that closes no circle leaves an element only when its chains of links end. -/
theorem Explored.step {w v : Walk} (explored : Explored all w) (step : Step all w v)
    (none : v.circles = []) : Explored all v := by
  obtain ⟨ends, followed⟩ := explored
  cases step with
  | @leave id stack entered circles =>
    obtain ⟨here, below⟩ := followed
    -- all links of the element were followed, and nothing is above it
    have left : Ends all id := by
      refine .intro _ fun link waits => ?_
      rcases here link waits with later | member | ends
      · cases later
      · cases member
      · exact ends
    refine ⟨fun other known outside => ?_, below.mono fun other member => ?_⟩
    · by_cases same : other = id
      · exact same ▸ left
      · exact ends other known (by simpa [path, same] using outside)
    · exact .inr (List.mem_singleton.1 member ▸ left)
  | close => simp at none
  | @pass id link rest stack entered circles onwards known =>
    obtain ⟨here, below⟩ := followed
    refine ⟨ends, fun other waits => ?_, below⟩
    rcases here other waits with later | above
    · rcases List.mem_cons.1 later with rfl | later
      · exact .inr (.inr (ends other known onwards))
      · exact .inl later
    · exact .inr above
  | @enter id link rest stack entered circles onwards new =>
    obtain ⟨here, below⟩ := followed
    refine ⟨fun other known outside => ?_, fun other waits => .inl waits, fun other waits => ?_,
      below.mono fun other member => ?_⟩
    · rcases List.mem_cons.1 known with rfl | known
      · exact absurd List.mem_cons_self outside
      · exact ends other known fun member => outside (List.mem_cons_of_mem _ member)
    · rcases here other waits with later | member | ends
      · rcases List.mem_cons.1 later with rfl | later
        · exact .inr (.inl List.mem_cons_self)
        · exact .inl later
      · cases member
      · exact .inr (.inr ends)
    · exact .inl (List.mem_singleton.1 member ▸ List.mem_cons_self)

/-! ## The number of steps -/

/-- One step for each link and one for leaving each element. -/
def load (entries : List (String × List String)) : Nat :=
  entries.length + (entries.flatMap (·.2)).length

/-- The listed elements that were not entered. -/
def fresh (all : List (String × List String)) (entered : List String) :
    List (String × List String) :=
  all.filter fun entry => !entered.contains entry.1

/-- How many steps are left at most. -/
def remaining (all : List (String × List String)) (w : Walk) : Nat :=
  load w.stack + load (fresh all w.entered)

theorem load_cons (entry : String × List String) (rest : List (String × List String)) :
    load (entry :: rest) = entry.2.length + 1 + load rest := by
  simp only [load, List.length_cons, List.flatMap_cons, List.length_append]
  omega

theorem load_linksOf {link : String} (listed : link ∈ all.map (·.1)) :
    (linksOf all link).length + 1 ≤ load (all.filter (·.1 == link)) := by
  obtain ⟨entry, member, rfl⟩ := List.mem_map.1 listed
  have some : 0 < (all.filter (·.1 == entry.1)).length :=
    List.length_pos_of_mem (List.mem_filter.2 ⟨member, by simp⟩)
  rw [linksOf, load]
  omega

theorem load_fresh (all : List (String × List String)) {link : String} {entered : List String}
    (new : link ∉ entered) :
    load (fresh all (link :: entered)) + load (all.filter (·.1 == link)) =
      load (fresh all entered) := by
  induction all with
  | nil => rfl
  | cons entry rest ih =>
    unfold fresh at ih ⊢
    by_cases same : entry.1 = link
    · simp [same, new, load_cons] at ih ⊢
      omega
    · by_cases known : entry.1 ∈ entered
      · simpa [List.filter_cons, same, known] using ih
      · simp [same, known, load_cons] at ih ⊢
        omega

/-- An element that is entered takes as many steps as it was counted for. -/
theorem load_enter {link : String} {entered : List String} (listed : link ∈ all.map (·.1))
    (new : link ∉ entered) :
    (linksOf all link).length + 1 + load (fresh all (link :: entered)) ≤
      load (fresh all entered) := by
  have := load_linksOf listed
  have := load_fresh all new
  omega

/-- Each step is one step less. -/
theorem Sound.remaining_step {w v : Walk} (complete : Complete all) (sound : Sound all w)
    (step : Step all w v) : v.remaining all < w.remaining all := by
  cases step with
  | leave => simp [remaining, load]
  | close => simp [remaining, load]
  | pass => simp [remaining, load]
  | enter onwards new =>
    have waits := sound.rest _ List.mem_cons_self List.mem_cons_self
    have := load_enter (Waits.target complete waits) new
    simp only [remaining, load_cons, List.length_cons] at this ⊢
    omega

/-! ## Whole walks -/

/-- What holds of a walk after every step. -/
structure Right (all : List (String × List String)) (w : Walk) : Prop where
  sound : Sound all w
  explored : w.circles = [] → Explored all w

theorem Step.entered {w v : Walk} (step : Step all w v) : w.entered ⊆ v.entered := by
  cases step with
  | enter => exact List.subset_cons_self _ _
  | _ => exact fun _ member => member

theorem Step.circles {w v : Walk} (step : Step all w v) (none : v.circles = []) :
    w.circles = [] := by
  cases step with
  | close => simp at none
  | _ => exact none

theorem Right.step {w v : Walk} (right : Right all w) (step : Step all w v) : Right all v :=
  ⟨right.sound.step step, fun none => (right.explored (step.circles none)).step step none⟩

/-- Given steps enough, a walk comes to its end. -/
theorem Right.finish (complete : Complete all) (left : Nat) {w : Walk} (right : Right all w)
    (enough : w.remaining all ≤ left) :
    Right all (w.finish all left) ∧ (w.finish all left).stack = [] ∧
      w.entered ⊆ (w.finish all left).entered := by
  induction left generalizing w with
  | zero =>
    refine ⟨right, ?_, fun _ member => member⟩
    cases stack : w.stack with
    | nil => exact stack
    | cons entry below => simp [remaining, stack, load] at enough
  | succ left ih =>
    rw [Walk.finish]
    split
    · next stop => exact ⟨right, List.isEmpty_iff.1 stop, fun _ member => member⟩
    · next walking =>
      have step := step_of_ne_nil all fun stop => walking (List.isEmpty_iff.2 stop)
      have less := right.sound.remaining_step complete step
      obtain ⟨right, stop, more⟩ := ih (right.step step) (by omega)
      exact ⟨right, stop, List.Subset.trans step.entered more⟩

theorem load_fresh_lt (all : List (String × List String)) (entered : List String) :
    load (fresh all entered) < walkSteps all := by
  have less : load (fresh all entered) ≤ load all := by
    unfold fresh
    induction all with
    | nil => exact Nat.le_refl _
    | cons entry rest ih =>
      rw [List.filter_cons]
      split <;> simp only [load_cons] <;> omega
  exact Nat.lt_succ_of_le less

theorem Right.start : Right all ⟨[], [], []⟩ :=
  ⟨⟨.nil, List.nodup_nil, by simp, by simp [path], by simp⟩, fun _ => ⟨by simp, trivial⟩⟩

/-- A walk that ended goes on from one more element. -/
theorem Right.begin {w : Walk} (right : Right all w) (stopped : w.stack = []) (root : String) :
    Right all { w with stack := [(root, linksOf all root)], entered := root :: w.entered } := by
  refine ⟨⟨.singleton _, List.nodup_singleton _, ?_, ?_, right.sound.real⟩,
    fun none => ⟨?_, ?_⟩⟩
  · exact List.forall_mem_singleton.2 fun _ member => member
  · exact List.forall_mem_singleton.2 List.mem_cons_self
  · intro id known outside
    rcases List.mem_cons.1 known with rfl | known
    · exact absurd List.mem_cons_self outside
    · exact (right.explored none).ends id known (by simp [path, stopped])
  · exact ⟨fun _ waits => .inl waits, trivial⟩

/-- A walk from one more element. -/
theorem Right.visit (complete : Complete all) {w : Walk} (right : Right all w)
    (stopped : w.stack = []) {root : String} (listed : root ∈ all.map (·.1)) :
    Right all (w.visit all (walkSteps all) root) ∧
      (w.visit all (walkSteps all) root).stack = [] ∧
      root ∈ (w.visit all (walkSteps all) root).entered ∧
      w.entered ⊆ (w.visit all (walkSteps all) root).entered := by
  rw [Walk.visit]
  split
  · next known => exact ⟨right, stopped, List.contains_iff_mem.1 known, fun _ member => member⟩
  · next unknown =>
    have new : root ∉ w.entered := fun known => unknown (List.contains_iff_mem.2 known)
    have enough : remaining all
        { w with stack := [(root, linksOf all root)], entered := root :: w.entered } ≤
          walkSteps all := by
      have := load_enter listed new
      have := load_fresh_lt all w.entered
      have empty : load [] = 0 := rfl
      simp only [remaining, load_cons, empty]
      omega
    obtain ⟨right, stop, more⟩ := (right.begin stopped root).finish complete _ enough
    exact ⟨right, stop, more List.mem_cons_self,
      List.Subset.trans (List.subset_cons_self _ _) more⟩

/-- Walks from all listed elements. -/
def whole (all : List (String × List String)) : Walk :=
  all.foldl (fun w (id, _) => w.visit all (walkSteps all) id) ⟨[], [], []⟩

/-- Walks from all listed elements enter all of them. -/
theorem whole_right (complete : Complete all) :
    Right all (whole all) ∧ (whole all).stack = [] ∧
      ∀ id ∈ all.map (·.1), id ∈ (whole all).entered := by
  have run : ∀ (roots : List (String × List String)) (w : Walk), roots ⊆ all → Right all w →
      w.stack = [] →
      let v := roots.foldl (fun w (id, _) => w.visit all (walkSteps all) id) w
      Right all v ∧ v.stack = [] ∧ w.entered ⊆ v.entered ∧
        ∀ id ∈ roots.map (·.1), id ∈ v.entered := by
    intro roots
    induction roots with
    | nil => exact fun w _ right stopped => ⟨right, stopped, fun _ member => member, by simp⟩
    | cons root rest ih =>
      intro w inside right stopped
      obtain ⟨listed, inside⟩ := List.cons_subset.1 inside
      obtain ⟨right, stopped, here, more⟩ :=
        right.visit complete stopped (List.mem_map_of_mem listed)
      obtain ⟨right, stopped, later, others⟩ := ih _ inside right stopped
      refine ⟨right, stopped, List.Subset.trans more later, fun id member => ?_⟩
      rcases List.mem_cons.1 member with rfl | member
      · exact later here
      · exact others id member
  obtain ⟨right, stopped, _, entered⟩ := run all _ (fun _ member => member) .start rfl
  exact ⟨right, stopped, entered⟩

/-- **The walks find a circle** exactly when there is one. -/
theorem circles_whole_iff (complete : Complete all) :
    (whole all).circles = [] ↔ ∀ id, ¬ Relation.TransGen (Waits all) id id := by
  obtain ⟨right, stopped, entered⟩ := whole_right complete
  constructor
  · intro none id circle
    obtain ⟨link, waits, _⟩ := Relation.TransGen.head'_iff.1 circle
    have ends := (right.explored none).ends id (entered id waits.source) (by simp [path, stopped])
    exact Template.not_transGen_of_acc ends circle
  · intro acyclic
    refine List.eq_nil_iff_forall_not_mem.2 fun circle found => ?_
    exact acyclic _ (right.sound.real circle found).transGen

end Walk

end Storyboard.Validation
