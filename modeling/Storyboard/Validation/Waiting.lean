import Storyboard.Finding

/-!
# Elements that wait for themselves

An element waits for the element it is placed relative to and, where it fills a gap, for the next
element of its track. Elements are told apart by their ids alone. A depth-first walk along these
links finds the circles: the path from the start of the walk to where it stands is kept as a stack,
and a link back into the path closes a circle.
-/

namespace Storyboard.Validation

variable {τ : Type}

/-- What an element of a track waits for, given the next element of the track: its anchor, where it
exists, and the end of its gap. -/
def waitsFor (known : List String) (e : Template.Element τ) (next : Option (Template.Element τ)) :
    List String :=
  (e.timing.anchorId?.filter known.contains).toList
    ++ if e.duration.isFillGap then (next.map (·.id)).toList else []

/-- The elements of a track, each with what it waits for. -/
def trackLinks (known : List String) : List (Template.Element τ) → List (String × List String)
  | [] => []
  | e :: rest => (e.id, waitsFor known e rest.head?) :: trackLinks known rest

/-- All elements, each with what it waits for; an id used twice is listed twice. -/
def links (t : Template τ) : List (String × List String) :=
  t.tracks.flatMap fun track => trackLinks (t.elements.map (·.id)) track.elements

/-- What the elements with an id wait for. -/
def linksOf (all : List (String × List String)) (id : String) : List String :=
  (all.filter (·.1 == id)).flatMap (·.2)

/-- Elements placed relative to an element that does not exist. -/
def unknownAnchors (t : Template τ) : List (Finding τ) :=
  let known := t.elements.map (·.id)
  t.elements.filterMap fun e =>
    (e.timing.anchorId?.filter fun id => !known.contains id).map fun id =>
      { cause := .unknownAnchor id, elementId := some e.id }

/-- How far a walk has come. -/
structure Walk where
  /-- The path from the start of the walk to where it stands, the latest step first; each element
  with the links that are still to be followed. -/
  stack : List (String × List String)
  /-- The elements entered so far. -/
  entered : List String
  /-- The circles found: the elements from where the path is met to where it stands, and the
  element met. -/
  circles : List (List String × String)

namespace Walk

/-- The part of the path from an element to where the walk stands. -/
def pathFrom (w : Walk) (id : String) : List String :=
  (((w.stack.map (·.1)).takeWhile (· != id)) ++ [id]).reverse

/-- One step: follow the next link of the latest element, or leave the element. -/
def step (all : List (String × List String)) (w : Walk) : Walk :=
  match w.stack with
  | [] => w
  | (_, []) :: path => { w with stack := path }
  | (id, link :: rest) :: path =>
    let moved := { w with stack := (id, rest) :: path }
    if moved.stack.any (·.1 == link) then
      { moved with circles := w.circles ++ [(moved.pathFrom link, link)] }
    else if w.entered.contains link then moved
    else { moved with stack := (link, linksOf all link) :: moved.stack, entered := link :: w.entered }

/-- Steps until the path is empty, at most a given number of them. -/
def finish (all : List (String × List String)) : Nat → Walk → Walk
  | 0, w => w
  | left + 1, w => if w.stack.isEmpty then w else finish all left (w.step all)

/-- A walk from an element, unless it has been entered before. -/
def visit (all : List (String × List String)) (steps : Nat) (w : Walk) (root : String) : Walk :=
  if w.entered.contains root then w
  else finish all steps { w with stack := [(root, linksOf all root)], entered := root :: w.entered }

end Walk

/-- More steps than any walk takes: each link is followed and each element left once. -/
def walkSteps (all : List (String × List String)) : Nat :=
  all.length + (all.flatMap (·.2)).length + 1

/-- The circles of elements that wait for one another, in the order in which walks from each element
find them. -/
def circles (t : Template τ) : List (List String × String) :=
  let all := links t
  (all.foldl (fun (w : Walk) (id, _) => w.visit all (walkSteps all) id) ⟨[], [], []⟩).circles

/-- The findings about elements that wait for something that never comes. -/
def waiting (t : Template τ) : List (Finding τ) :=
  unknownAnchors t
    ++ (circles t).map fun (chain, back) => { cause := .circle chain back, elementId := some back }

end Storyboard.Validation
