import Dispatch.Dictionary

/-!
# Cycles among dependencies

Directories depend on directories. Before anything runs, the dependencies are searched for a
cycle, depth first: the directories on the path from the start of the search to the current one
are kept in order, and a dependency on one of them closes a cycle.

## Main definitions

* `DependencyGraph`: the dependencies of each directory.
* `DependencyGraph.closingEdge?`: the first edge found that closes a cycle.
-/

namespace Dispatch

/-- The **dependencies** of each directory, in the order in which they are declared. -/
abbrev DependencyGraph := Dictionary (List String)

namespace DependencyGraph

/-- An **edge** leads from a directory to one that it depends on. -/
structure Edge where
  source : String
  target : String
deriving DecidableEq

/-- What stands between the ends of an edge. -/
def arrow : String := " -> "

/-- The wording of an edge. -/
def Edge.text (e : Edge) : String := e.source ++ arrow ++ e.target

/-- The dependencies of a directory; a directory that the graph does not know has none. -/
def dependencies (g : DependencyGraph) (dir : String) : List String := (g.get? dir).getD []

/-- How many dependencies a directory has at most. -/
def breadth (g : DependencyGraph) : Nat := (g.values.map List.length).foldr max 0

theorem length_dependencies_le (g : DependencyGraph) (dir : String) :
    (g.dependencies dir).length ≤ g.breadth := by
  rw [dependencies, Dictionary.get?, breadth, Dictionary.values]
  induction g.entries with
  | nil => exact Nat.zero_le _
  | cons entry rest ih =>
      rw [Dictionary.find, List.map_cons, List.map_cons, List.foldr_cons]
      split
      · exact Nat.le_max_left _ _
      · exact Nat.le_trans ih (Nat.le_max_right _ _)

/-- All directories that the graph mentions, each once. -/
def directories (g : DependencyGraph) : List String := (g.keys ++ g.values.flatten).eraseDups

/-- What a part of the search found: an edge that closes a cycle, or that there is none among
the directories that it has finished; then `fresh` shrinks to those not yet seen. -/
inductive Search (fresh : List String) where
  | closed (edge : Edge)
  | finished (rest : List String) (shrunk : rest.length ≤ fresh.length)

mutual

/-- Searches from a directory not yet seen, below the directories on `path`. -/
def visit (g : DependencyGraph) (path : List String) (dir : String) (fresh : List String)
    (unseen : dir ∈ fresh) : Search fresh :=
  have shorter : (fresh.erase dir).length < fresh.length := by
    have := List.length_erase_of_mem unseen
    have := List.length_pos_of_mem unseen
    omega
  match visitAll g (dir :: path) dir (g.dependencies dir) (fresh.erase dir) with
  | .closed edge => .closed edge
  | .finished rest shrunk => .finished rest (Nat.le_trans shrunk (Nat.le_of_lt shorter))
termination_by fresh.length * (g.breadth + 1)
decreasing_by
  have deps := g.length_dependencies_le dir
  have steps := Nat.mul_le_mul_right (g.breadth + 1) (Nat.succ_le_of_lt shorter)
  rw [Nat.succ_mul] at steps
  omega

/-- Searches from each of the dependencies of `dir`, the directory at the end of the path. -/
def visitAll (g : DependencyGraph) (path : List String) (dir : String) (deps : List String)
    (fresh : List String) : Search fresh :=
  match deps with
  | [] => .finished fresh (Nat.le_refl _)
  | dep :: deps =>
    if dep ∈ path then .closed ⟨dir, dep⟩
    else if unseen : dep ∈ fresh then
      match visit g path dep fresh unseen with
      | .closed edge => .closed edge
      | .finished rest shrunk =>
        match visitAll g path dir deps rest with
        | .closed edge => .closed edge
        | .finished rest' shrunk' => .finished rest' (Nat.le_trans shrunk' shrunk)
    else visitAll g path dir deps fresh
termination_by fresh.length * (g.breadth + 1) + deps.length
decreasing_by
  · simp
  · have := Nat.mul_le_mul_right (g.breadth + 1) shrunk
    rw [List.length_cons]
    omega
  · simp

end

/-- Searches from each of the given directories that has not been seen. -/
def searchFrom (g : DependencyGraph) : (starts fresh : List String) → Option Edge
  | [], _ => none
  | dir :: starts, fresh =>
    if unseen : dir ∈ fresh then
      match visit g [] dir fresh unseen with
      | .closed edge => some edge
      | .finished rest _ => searchFrom g starts rest
    else searchFrom g starts fresh

/-- The first **edge that closes a cycle**, when directories are searched in ascending order and
dependencies in the order of their declaration. -/
def closingEdge? (g : DependencyGraph) : Option Edge := searchFrom g g.keys g.directories

end DependencyGraph

end Dispatch
