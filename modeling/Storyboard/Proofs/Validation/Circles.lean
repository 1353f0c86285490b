import Mathlib.Logic.Function.Basic
import Storyboard.Proofs.Validation.Agreement

/-!
# Reported circles

The walk told with marks: an element is marked when it is entered and marked again when it is left,
a link to an element that is still being visited closes a circle, and the circle is cut out of the
stack by its place there. Since the elements being visited are exactly those on the stack, and the
stack is a path of links, this is the walk along paths. So it ends, all elements have been left then,
and every circle reported is a circle of dependencies.
-/

namespace Storyboard.Validation

variable {all : List (String × List String)}

/-- How far the walk is with an element that it has entered. -/
inductive Mark where
  /-- The element is on the way to where the walk stands. -/
  | visiting
  /-- All that the element waits for was followed. -/
  | done
  deriving DecidableEq

/-- How far a walk with marks has come. -/
structure MarkedWalk where
  /-- The elements on the way, the latest first, each with the place of its next link. -/
  stack : List (String × Nat)
  marks : String → Option Mark
  /-- The circles found, each with the element that closed it. -/
  circles : List (List String × String)

namespace MarkedWalk

/-- The mark of one element is set. -/
def mark (w : MarkedWalk) (id : String) (mark : Mark) : MarkedWalk :=
  { w with marks := Function.update w.marks id (some mark) }

/-- The elements on the way, from the start of the walk, without those before a given one. -/
def cut (w : MarkedWalk) (id : String) : List String :=
  let way := (w.stack.map (·.1)).reverse
  way.drop (way.idxOf id)

/-- One step: the mark of the element that the next link leads to says what to do. -/
def step (all : List (String × List String)) (w : MarkedWalk) : MarkedWalk :=
  match w.stack with
  | [] => w
  | (id, next) :: below =>
    match (linksOf all id)[next]? with
    | none => { w with stack := below }.mark id .done
    | some link =>
      let moved := { w with stack := (id, next + 1) :: below }
      match w.marks link with
      | some .done => moved
      | some .visiting => { moved with circles := w.circles ++ [(moved.cut link, link)] }
      | none => { moved with stack := (link, 0) :: moved.stack }.mark link .visiting

/-- Steps until the stack is empty, at most a given number of them. -/
def finish (all : List (String × List String)) : Nat → MarkedWalk → MarkedWalk
  | 0, w => w
  | left + 1, w => if w.stack.isEmpty then w else finish all left (w.step all)

/-- A walk from an element, unless it has a mark. -/
def visit (all : List (String × List String)) (steps : Nat) (w : MarkedWalk) (root : String) :
    MarkedWalk :=
  if (w.marks root).isSome then w
  else finish all steps ({ w with stack := [(root, 0)] }.mark root .visiting)

/-- Walks from some elements, with a number of steps allowed to each. -/
def walks (all : List (String × List String)) (steps : Nat) (roots : List String) : MarkedWalk :=
  roots.foldl (visit all steps) ⟨[], fun _ => none, []⟩

end MarkedWalk

namespace Walk

/-! ## Marks and paths -/

/-- The mark that a walk along paths means: elements on the path are being visited, and those entered
and no longer on it are done. -/
def mark? (w : Walk) (id : String) : Option Mark :=
  if id ∈ w.path then some .visiting else if id ∈ w.entered then some .done else none

/-- A walk with marks shows where a walk along paths stands. -/
structure Shown (all : List (String × List String)) (w : Walk) (m : MarkedWalk) : Prop where
  stack : w.stack = m.stack.map fun (id, next) => (id, (linksOf all id).drop next)
  marks : ∀ id, m.marks id = w.mark? id
  circles : m.circles = w.circles

theorem Shown.path {w : Walk} {m : MarkedWalk} (shown : Shown all w m) :
    w.path = m.stack.map (·.1) := by
  rw [Walk.path, shown.stack, List.map_map]
  rfl

theorem Shown.isEmpty {w : Walk} {m : MarkedWalk} (shown : Shown all w m) :
    m.stack.isEmpty = w.stack.isEmpty := by
  rw [shown.stack, List.isEmpty_map]

/-- On a path without a repetition, the place of an element cuts out the part from there on. -/
theorem cut_eq {path : List String} (once : path.Nodup) {link : String} (back : link ∈ path) :
    path.reverse.drop (path.reverse.idxOf link) =
      (path.takeWhile (· != link) ++ [link]).reverse := by
  obtain ⟨above, below, rfl, fresh⟩ := List.eq_append_cons_of_mem back
  have new : link ∉ below.reverse := by
    have := (List.nodup_append.1 once).2.1
    simpa using (List.nodup_cons.1 this).1
  have before : (above ++ link :: below).takeWhile (· != link) = above := by
    rw [List.takeWhile_append_of_pos]
    · simp
    · intro other member
      have : other ≠ link := fun same => fresh (same ▸ member)
      simpa using this
  rw [before, List.reverse_append, List.reverse_cons, List.append_assoc,
    List.idxOf_append_of_notMem new]
  simp

/-- The part of the stack from an element on is the part of the path. -/
theorem Shown.cut {w : Walk} {m : MarkedWalk} (shown : Shown all w m) (once : w.path.Nodup)
    {link : String} (back : link ∈ w.path) : m.cut link = w.pathFrom link := by
  have place : m.cut link = w.path.reverse.drop (w.path.reverse.idxOf link) := by
    rw [shown.path]; rfl
  rw [place, cut_eq once back]
  rfl

theorem Shown.cons {id : String} {links : List String} {stack : List (String × List String)}
    {entered : List String} {circles : List (List String × String)} {m : MarkedWalk}
    (shown : Shown all ⟨(id, links) :: stack, entered, circles⟩ m) :
    ∃ next below marks, m = ⟨(id, next) :: below, marks, circles⟩ ∧
      links = (linksOf all id).drop next ∧ stack = below.map fun (id, next) =>
        (id, (linksOf all id).drop next) := by
  obtain ⟨whole, marks, found⟩ := m
  obtain ⟨same, _, rfl⟩ := shown
  obtain ⟨⟨_, next⟩, below, rfl, entry, rest⟩ := List.map_eq_cons_iff.1 same.symm
  cases entry
  exact ⟨next, below, marks, rfl, rfl, rest.symm⟩

theorem drop_eq_cons_iff {links : List String} {next : Nat} {link : String} {rest : List String} :
    links.drop next = link :: rest ↔ links[next]? = some link ∧ links.drop (next + 1) = rest := by
  rw [← List.tail_drop, ← List.head?_drop]
  cases links.drop next <;> simp

theorem mark?_congr {w v : Walk} {id : String} (path : id ∈ w.path ↔ id ∈ v.path)
    (entered : id ∈ w.entered ↔ id ∈ v.entered) : w.mark? id = v.mark? id := by
  simp only [mark?, path, entered]

/-- **One step with marks** is one step along paths. -/
theorem Shown.step {w v : Walk} {m : MarkedWalk} (sound : Sound all w) (shown : Shown all w m)
    (step : Step all w v) : Shown all v (m.step all) := by
  cases step with
  | @leave id stack entered circles =>
    obtain ⟨next, below, marks, rfl, spent, rfl⟩ := shown.cons
    have ended : (linksOf all id)[next]? = none := by
      rw [← List.head?_drop, ← spent]
      rfl
    simp only [MarkedWalk.step, ended]
    refine ⟨rfl, fun other => ?_, shown.circles⟩
    -- the element stood on the path once, so that it is no longer on it
    by_cases same : other = id
    · subst same
      have gone := (List.nodup_cons.1 sound.once).1
      have known := sound.listed other List.mem_cons_self
      exact (Function.update_self _ _ _).trans ((if_neg gone).trans (if_pos known)).symm
    · refine (Function.update_of_ne same _ _).trans ((shown.marks other).trans ?_)
      exact mark?_congr (by simp [Walk.path, same]) Iff.rfl
  | @close id link rest stack entered circles back =>
    obtain ⟨next, below, marks, rfl, spent, rfl⟩ := shown.cons
    obtain ⟨here, rfl⟩ := drop_eq_cons_iff.1 spent.symm
    have mark : marks link = some .visiting := (shown.marks link).trans (if_pos back)
    have moved : Shown all ⟨(id, (linksOf all id).drop (next + 1)) :: _, entered, circles⟩
        ⟨(id, next + 1) :: below, marks, circles⟩ := ⟨rfl, shown.marks, rfl⟩
    simp only [MarkedWalk.step, here, mark]
    refine ⟨rfl, shown.marks, ?_⟩
    rw [moved.cut sound.once back]
  | @pass id link rest stack entered circles onwards known =>
    obtain ⟨next, below, marks, rfl, spent, rfl⟩ := shown.cons
    obtain ⟨here, rfl⟩ := drop_eq_cons_iff.1 spent.symm
    have mark : marks link = some .done :=
      (shown.marks link).trans ((if_neg onwards).trans (if_pos known))
    simp only [MarkedWalk.step, here, mark]
    exact ⟨rfl, shown.marks, shown.circles⟩
  | @enter id link rest stack entered circles onwards fresh =>
    obtain ⟨next, below, marks, rfl, spent, rfl⟩ := shown.cons
    obtain ⟨here, rfl⟩ := drop_eq_cons_iff.1 spent.symm
    have mark : marks link = none :=
      (shown.marks link).trans ((if_neg onwards).trans (if_neg fresh))
    simp only [MarkedWalk.step, here, mark]
    refine ⟨rfl, fun other => ?_, shown.circles⟩
    by_cases same : other = link
    · subst same
      exact (Function.update_self _ _ _).trans (if_pos List.mem_cons_self).symm
    · refine (Function.update_of_ne same _ _).trans ((shown.marks other).trans ?_)
      exact mark?_congr (by simp [Walk.path, same]) (by simp [same])

/-! ## Whole walks with marks -/

theorem Shown.finish (left : Nat) {w : Walk} {m : MarkedWalk} (sound : Sound all w)
    (shown : Shown all w m) : Shown all (w.finish all left) (m.finish all left) := by
  induction left generalizing w m with
  | zero => exact shown
  | succ left ih =>
    rw [Walk.finish, MarkedWalk.finish, shown.isEmpty]
    split
    · exact shown
    · next walking =>
      have step := step_of_ne_nil all fun stop => walking (List.isEmpty_iff.2 stop)
      exact ih (sound.step step) (shown.step sound step)

/-- A walk that came to its end does not go on when it may. -/
theorem finish_of_le {left more : Nat} {w : Walk} (stopped : (w.finish all left).stack = [])
    (le : left ≤ more) : w.finish all more = w.finish all left := by
  induction left generalizing w more with
  | zero =>
    cases more with
    | zero => rfl
    | succ more => exact if_pos (List.isEmpty_iff.2 stopped)
  | succ left ih =>
    obtain ⟨more, rfl⟩ := Nat.exists_eq_add_of_lt (Nat.lt_of_lt_of_le (Nat.succ_pos left) le)
    rw [Nat.zero_add] at le ⊢
    rw [Walk.finish] at stopped ⊢
    rw [Walk.finish]
    split
    · rfl
    · next walking =>
      rw [if_neg walking] at stopped
      exact ih stopped (Nat.le_of_succ_le_succ le)

theorem Shown.visit (steps : Nat) {w : Walk} {m : MarkedWalk} (right : Right all w)
    (stopped : w.stack = []) (shown : Shown all w m) (root : String) :
    Shown all (w.visit all steps root) (m.visit all steps root) := by
  have known : (m.marks root).isSome = w.entered.contains root := by
    rw [shown.marks, mark?, if_neg (by simp [Walk.path, stopped]), Bool.eq_iff_iff,
      List.contains_iff_mem]
    split <;> simp_all
  rw [Walk.visit, MarkedWalk.visit, known]
  split
  · exact shown
  · refine Shown.finish steps (right.begin stopped root).sound ⟨rfl, fun id => ?_, shown.circles⟩
    by_cases same : id = root
    · subst same
      exact (Function.update_self _ _ _).trans (if_pos List.mem_cons_self).symm
    · refine (Function.update_of_ne same _ _).trans ((shown.marks id).trans ?_)
      simp [mark?, Walk.path, stopped, same]

theorem Right.visit_of_le (complete : Complete all) {w : Walk} (right : Right all w)
    (stopped : w.stack = []) {root : String} (listed : root ∈ all.map (·.1)) {steps : Nat}
    (enough : walkSteps all ≤ steps) :
    w.visit all steps root = w.visit all (walkSteps all) root := by
  have ends := (right.visit complete stopped listed).2.1
  simp only [Walk.visit] at ends ⊢
  split
  · rfl
  · next unknown =>
    rw [if_neg unknown] at ends
    exact finish_of_le ends enough

/-- **Walks with marks end**: however many more steps they are allowed, they stand where walks along
paths stand. -/
theorem shown_walks (complete : Complete all) {steps : Nat} (enough : walkSteps all ≤ steps)
    {roots : List String} (listed : roots ⊆ all.map (·.1)) :
    ∃ w, w = roots.foldl (Walk.visit all (walkSteps all)) ⟨[], [], []⟩ ∧ Right all w ∧
      w.stack = [] ∧ roots ⊆ w.entered ∧ Shown all w (MarkedWalk.walks all steps roots) := by
  induction roots using List.reverseRecOn with
  | nil => exact ⟨_, rfl, .start, rfl, List.nil_subset _, rfl, fun _ => rfl, rfl⟩
  | append_singleton roots root ih =>
    obtain ⟨earlier, here⟩ := List.append_subset.1 listed
    obtain ⟨w, same, right, stopped, entered, shown⟩ := ih earlier
    have here := here List.mem_cons_self
    obtain ⟨right', stopped', new, kept⟩ := right.visit complete stopped here
    refine ⟨_, ?_, right', stopped', ?_, ?_⟩
    · rw [List.foldl_concat, ← same]
    · exact List.append_subset.2
        ⟨List.Subset.trans entered kept, List.cons_subset.2 ⟨new, List.nil_subset _⟩⟩
    · rw [MarkedWalk.walks, List.foldl_concat, ← right.visit_of_le complete stopped here enough]
      exact shown.visit steps right stopped root

end Walk

/-! ## The report -/

variable {τ : Type} {t : Template τ}

/-- A circle of dependencies: each of some elements depends on the next one, and the last one on the
first. -/
structure DependsInCircle (t : Template τ) (first : String) (rest : List String) : Prop where
  elements : ∀ id ∈ first :: rest, ∃ e ∈ t.elements, e.id = id
  chained : (first :: rest ++ [first]).IsChain t.DependsOn

/-- In a chain, whatever has something after it is related to something. -/
theorem exists_of_isChain {α : Type} {r : α → α → Prop} {chain : List α} {last : α}
    (chained : (chain ++ [last]).IsChain r) {a : α} (member : a ∈ chain) : ∃ b, r a b := by
  obtain ⟨before, after, rfl⟩ := List.append_of_mem member
  rw [List.append_assoc, List.cons_append] at chained
  have here := (List.isChain_cons.1 chained.right_of_append).1
  cases after with
  | nil => exact ⟨last, here last rfl⟩
  | cons next _ => exact ⟨next, here next rfl⟩

theorem Circle.dependsInCircle {chain : List String} {back : String}
    (circle : Circle (links t) chain back) :
    ∃ rest, chain = back :: rest ∧ DependsInCircle t back rest := by
  obtain ⟨first, chained, closing⟩ := circle
  obtain ⟨rest, rfl⟩ := List.head?_eq_some_iff.1 first
  have around : (back :: rest ++ [back]).IsChain (Waits (links t)) := by
    refine List.isChain_append.2 ⟨chained, .singleton _, fun last final first same => ?_⟩
    cases same
    exact closing last final
  have depends : (back :: rest ++ [back]).IsChain t.DependsOn :=
    around.imp fun _ _ waits => (waits_links.1 waits).1
  refine ⟨rest, rfl, ⟨fun id member => ?_, depends⟩⟩
  obtain ⟨_, needs⟩ := exists_of_isChain depends member
  exact List.mem_map.1 needs.source

theorem circles_eq (t : Template τ) :
    circles t = ((t.elements.map (·.id)).foldl (Walk.visit (links t) (walkSteps (links t)))
      ⟨[], [], []⟩).circles := by
  rw [circles, ← map_fst_links, List.foldl_map]

/-- The walks over the elements of a template, with marks and with any number of steps that is
enough. -/
theorem walks_elements (t : Template τ) {steps : Nat} (enough : walkSteps (links t) ≤ steps)
    {roots : List String} (prefixed : roots <+: t.elements.map (·.id)) :
    (MarkedWalk.walks (links t) steps roots).stack = [] ∧
      (∀ id ∈ roots, (MarkedWalk.walks (links t) steps roots).marks id = some .done) ∧
      (roots = t.elements.map (·.id) →
        (MarkedWalk.walks (links t) steps roots).circles = circles t) := by
  have listed : roots ⊆ (links t).map (·.1) := by
    rw [map_fst_links]
    exact prefixed.subset
  obtain ⟨w, same, _, stopped, entered, shown⟩ :=
    Walk.shown_walks (complete_links t) enough listed
  refine ⟨?_, fun id member => ?_, ?_⟩
  · rw [← List.isEmpty_iff, shown.isEmpty, stopped]
    rfl
  · rw [shown.marks, Walk.mark?, if_neg (by simp [Walk.path, stopped]), if_pos (entered member)]
  · rintro rfl
    rw [shown.circles, same, circles_eq]

variable [Measure τ]

/-- Every circle reported is a circle of dependencies, from the element that it is about. -/
theorem reported_circle {f : Finding τ} (member : f ∈ t.validate.errors ++ t.validate.warnings)
    (code : f.cause.code = .circularReference) :
    ∃ first rest, f = { cause := .circle (first :: rest) first, elementId := some first } ∧
      DependsInCircle t first rest := by
  rcases Template.reported_cases member with twice | waits | ⟨_, _, other⟩
  · rw [code_duplicates twice] at code
    cases code
  · rcases List.mem_append.1 waits with lost | found
    · rw [code_unknownAnchors lost] at code
      cases code
    · obtain ⟨⟨chain, back⟩, closed, rfl⟩ := List.mem_map.1 found
      have real : Circle (links t) chain back :=
        (Walk.whole_right (complete_links t)).1.sound.real _ closed
      obtain ⟨rest, rfl, circle⟩ := real.dependsInCircle
      exact ⟨back, rest, rfl, circle⟩
  · exact absurd code other

omit [Measure τ] in
/-- **Reported circles are real**: the walks over the elements of a template end, with all elements
done and the circles of the report found, and each circle in the report is one of dependencies, told
in full and beginning at the element that the report names. -/
theorem circles_reported (t : Template Float) (steps : Nat)
    (enough : walkSteps (links t) ≤ steps) :
    let walks := MarkedWalk.walks (links t) steps
    let ids := t.elements.map (·.id)
    (∀ roots, roots <+: ids →
      (walks roots).stack = [] ∧ ∀ id ∈ roots, (walks roots).marks id = some .done) ∧
    (walks ids).circles = circles t ∧
    ∀ f ∈ t.validate.errors ++ t.validate.warnings, f.cause.code = .circularReference →
      ∃ first rest, f.cause = .circle (first :: rest) first ∧ DependsInCircle t first rest ∧
        f.issue =
          { code := .circularReference, elementId := some first
            message := "Circular timing: " ++ " -> ".intercalate (first :: rest) ++ " -> "
              ++ first } := by
  refine ⟨fun roots prefixed => ?_, ?_, fun f member code => ?_⟩
  · obtain ⟨stopped, done, _⟩ := walks_elements t enough prefixed
    exact ⟨stopped, done⟩
  · exact (walks_elements t enough List.prefix_rfl).2.2 rfl
  · obtain ⟨first, rest, rfl, circle⟩ := reported_circle member code
    exact ⟨first, rest, rfl, circle, rfl⟩

/-- A refrain that lasts until the couplet, which starts after the refrain, and an echo of itself. -/
def rondo : Template Float :=
  let refrain : Template.Element Float :=
    { id := "refrain", name := "Refrain", timing := .absolute 0.0, duration := .fillGap none
      content := .fixed (some "La la la") none }
  let couplet : Template.Element Float :=
    { id := "couplet", name := "Couplet", timing := .relative "refrain" 1.0 .finish
      duration := .fixed 8.0, content := .fixed (some "La di da") none }
  let echo : Template.Element Float :=
    { id := "echo", name := "Echo", timing := .relative "echo" 0.5 .start
      duration := .fixed 1.0, content := .fixed (some "La") none }
  let song : Template.Track Float :=
    { id := "song", name := "Song", kind := .text, role := .caption, elements := [refrain, couplet] }
  let response : Template.Track Float :=
    { id := "response", name := "Response", kind := .text, role := .caption, elements := [echo] }
  { (Template.new "rondo" "Rondo" .landscape ⟨0, 0⟩ : Template Float) with
    tracks := [song, response] }

/-- The song goes round in two circles, one of them along the end of a gap. -/
theorem circles_rondo :
    walkSteps (links rondo) ≤ 20 ∧
      circles rondo = [(["refrain", "couplet"], "refrain"), (["echo"], "echo")] ∧
      (MarkedWalk.walks (links rondo) 20 (rondo.elements.map (·.id))).circles = circles rondo ∧
      DependsInCircle rondo "refrain" ["couplet"] ∧ DependsInCircle rondo "echo" [] ∧
      (Cause.circle ["refrain", "couplet"] "refrain").message =
        "Circular timing: refrain -> couplet -> refrain" := by
  have enough : walkSteps (links rondo) ≤ 20 := by decide
  have found : circles rondo = [(["refrain", "couplet"], "refrain"), (["echo"], "echo")] := by
    decide
  obtain ⟨_, same, real⟩ := circles_reported rondo 20 enough
  have reported : ∀ chain back, (chain, back) ∈ circles rondo →
      ∃ rest, chain = back :: rest ∧ DependsInCircle rondo back rest := by
    intro chain back closed
    have waits := mem_waiting closed
    obtain ⟨first, rest, cause, circle, _⟩ := real _ (Template.mem_report (.inr waits)) rfl
    cases cause
    exact ⟨rest, rfl, circle⟩
  rw [found] at reported
  obtain ⟨_, ⟨⟩, refrain⟩ := reported _ _ List.mem_cons_self
  obtain ⟨_, ⟨⟩, echo⟩ := reported _ _ (List.mem_cons_of_mem _ List.mem_cons_self)
  exact ⟨enough, found, same, refrain, echo, rfl⟩

end Storyboard.Validation
