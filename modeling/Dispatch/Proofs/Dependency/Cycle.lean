import Dispatch.Dependency.Cycle
import Dispatch.Proofs.Dictionary
import Mathlib.Logic.Relation

/-!
# What the search for a cycle finds

The search finishes a directory once it has finished all those that the directory depends on. So no
chain of dependencies that starts from a finished directory goes on forever, and where the search
finishes everything, there is no cycle. An edge that it finds leads back to the path on which it
arrived, and so it lies on a cycle.

## Main definitions

* `DependencyGraph.DependsOn`: the edges of the graph.
* `DependencyGraph.Grounded`: no chain of dependencies goes on forever.
* `DependencyGraph.OnCycle`: an edge of a cycle.
* `DependencyGraph.Finished`: what has been seen and is not on the path has been finished.
* `DependencyGraph.Search.Correct`: what a part of the search has found is right.

## Main results

* `DependencyGraph.search_correct`: each part of the search is right about what it finds.
* `DependencyGraph.closingEdge?_eq_some`: an edge that is found lies on a cycle.
* `DependencyGraph.closingEdge?_eq_none`: no edge is found exactly if there is no cycle.
* `DependencyGraph.detects_cycles`: the search is sound and complete.
-/

namespace Dispatch.DependencyGraph

open Relation (TransGen ReflTransGen)

/-! ### Chains of dependencies -/

/-- A directory **depends on** another. -/
def DependsOn (g : DependencyGraph) (dir dep : String) : Prop := dep ∈ g.dependencies dir

/-- No chain of dependencies from the directory **goes on forever**. -/
def Grounded (g : DependencyGraph) (dir : String) : Prop :=
  Acc (fun dep dir => g.DependsOn dir dep) dir

/-- An edge that **lies on a cycle**: from its target a chain of dependencies leads back to its
source. -/
structure OnCycle (g : DependencyGraph) (edge : Edge) : Prop where
  depends : g.DependsOn edge.source edge.target
  returns : ReflTransGen g.DependsOn edge.target edge.source

variable {g : DependencyGraph} {dir : String}

/-- A chain that never goes on forever **never comes back**. -/
theorem Grounded.not_cyclic (h : g.Grounded dir) : ¬ TransGen g.DependsOn dir dir := by
  induction h with
  | intro dir _ ih =>
      intro cycle
      obtain ⟨dep, depends, back⟩ := TransGen.head'_iff.mp cycle
      exact ih dep depends (.tail' back depends)

/-- The source of an edge on a cycle comes back to itself. -/
theorem OnCycle.cyclic {edge : Edge} (h : g.OnCycle edge) :
    TransGen g.DependsOn edge.source edge.source :=
  .head' h.depends h.returns

/-- Only directories that the graph knows depend on others. -/
theorem DependsOn.known {dep : String} (h : g.DependsOn dir dep) : dir ∈ g.keys := by
  rw [DependsOn, dependencies] at h
  cases found : g.get? dir with
  | none => simp [found] at h
  | some deps => exact Dictionary.mem_keys.mpr ⟨deps, found⟩

/-- A directory that the graph does not mention is grounded. -/
theorem grounded_of_unmentioned (unmentioned : dir ∉ g.directories) : g.Grounded dir := by
  refine .intro dir fun dep depends => absurd ?_ unmentioned
  rw [directories, List.mem_eraseDups]
  exact List.mem_append_left _ depends.known

/-! ### The search -/

/-- Among the directories that have been seen, those not on the path **have been finished**. -/
def Finished (g : DependencyGraph) (path fresh : List String) : Prop :=
  ∀ dir, dir ∉ fresh → dir ∉ path → g.Grounded dir

/-- What a part of the search has found **is right**: the edge lies on a cycle, or else it has
finished the directories that it was to search from. -/
def Search.Correct (g : DependencyGraph) (path dirs : List String) {fresh : List String} :
    Search fresh → Prop
  | .closed edge => g.OnCycle edge
  | .finished rest _ => g.Finished path rest ∧ ∀ dir ∈ dirs, g.Grounded dir

variable {path fresh : List String}

/-- The next directory gets onto the path when it is seen. -/
theorem Finished.enter (h : g.Finished path fresh) :
    g.Finished (dir :: path) (fresh.erase dir) := by
  intro other seen off
  obtain ⟨ne, off⟩ := not_or.mp (List.mem_cons.not.mp off)
  exact h other (fun mem => seen ((List.mem_erase_of_ne ne).mpr mem)) off

/-- It leaves the path when it has been finished itself. -/
theorem Finished.leave (h : g.Finished (dir :: path) fresh) (grounded : g.Grounded dir) :
    g.Finished path fresh := by
  intro other seen off
  by_cases same : other = dir
  · exact same ▸ grounded
  · exact h other seen (List.mem_cons.not.mpr (not_or.mpr ⟨same, off⟩))

/-- **Each part of the search is right**, if what has been seen before has been finished and each
directory on the path leads to the one at its end. -/
theorem search_correct (g : DependencyGraph) :
    (∀ path dir fresh (unseen : dir ∈ fresh), g.Finished path fresh →
      (∀ p ∈ path, ReflTransGen g.DependsOn p dir) →
      (g.visit path dir fresh unseen).Correct g path [dir]) ∧
    ∀ path dir deps fresh, g.Finished path fresh →
      (∀ p ∈ path, ReflTransGen g.DependsOn p dir) → (∀ dep ∈ deps, g.DependsOn dir dep) →
      (g.visitAll path dir deps fresh).Correct g path deps := by
  have onPath {path : List String} {dir : String}
      (leads : ∀ p ∈ path, ReflTransGen g.DependsOn p dir) :
      ∀ p ∈ dir :: path, ReflTransGen g.DependsOn p dir :=
    List.forall_mem_cons.mpr ⟨.refl, leads⟩
  have onward {path : List String} {dir dep : String}
      (leads : ∀ p ∈ path, ReflTransGen g.DependsOn p dir) (depends : g.DependsOn dir dep) :
      ∀ p ∈ path, ReflTransGen g.DependsOn p dep :=
    fun p mem => (leads p mem).tail depends
  apply visit.mutual_induct g
  case case1 =>
    intro path dir fresh unseen _ edge found ih finished leads
    have right := ih finished.enter (onPath leads) fun _ => id
    rw [visit]
    simp only [found] at right ⊢
    exact right
  case case2 =>
    intro path dir fresh unseen _ rest shrunk found ih finished leads
    have right := ih finished.enter (onPath leads) fun _ => id
    rw [visit]
    simp only [found] at right ⊢
    have grounded : g.Grounded dir := .intro dir right.2
    exact ⟨right.1.leave grounded, List.forall_mem_singleton.mpr grounded⟩
  case case3 =>
    intro path dir fresh finished _ _
    rw [visitAll]
    exact ⟨finished, by simp⟩
  case case4 =>
    intro path dir fresh dep deps back _ leads depends
    rw [visitAll, if_pos back]
    exact ⟨depends dep List.mem_cons_self, leads dep back⟩
  case case5 =>
    intro path dir fresh dep deps ahead unseen edge found ih finished leads depends
    have right := ih finished (onward leads (depends dep List.mem_cons_self))
    rw [visitAll, if_neg ahead, dif_pos unseen]
    simp only [found] at right ⊢
    exact right
  case case6 =>
    intro path dir fresh dep deps ahead unseen rest shrunk found edge later ih ih' finished leads
      depends
    obtain ⟨first, depends'⟩ := List.forall_mem_cons.mp depends
    have right := ih finished (onward leads first)
    rw [visitAll, if_neg ahead, dif_pos unseen]
    simp only [found] at right ⊢
    have right' := ih' right.1 leads depends'
    simp only [later] at right' ⊢
    exact right'
  case case7 =>
    intro path dir fresh dep deps ahead unseen rest shrunk found rest' shrunk' later ih ih' finished
      leads depends
    obtain ⟨first, depends'⟩ := List.forall_mem_cons.mp depends
    have right := ih finished (onward leads first)
    rw [visitAll, if_neg ahead, dif_pos unseen]
    simp only [found] at right ⊢
    have right' := ih' right.1 leads depends'
    simp only [later] at right' ⊢
    exact ⟨right'.1, List.forall_mem_cons.mpr ⟨right.2 dep List.mem_cons_self, right'.2⟩⟩
  case case8 =>
    intro path dir fresh dep deps ahead seen ih finished leads depends
    have right := ih finished leads (List.forall_mem_cons.mp depends).2
    rw [visitAll, if_neg ahead, dif_neg seen]
    revert right
    cases g.visitAll path dir deps fresh with
    | closed edge => exact id
    | finished rest shrunk =>
        exact fun right => ⟨right.1, List.forall_mem_cons.mpr ⟨finished dep seen ahead, right.2⟩⟩

/-- What is found **from several starts** is right as well. -/
theorem searchFrom_correct (g : DependencyGraph) (starts fresh : List String)
    (finished : g.Finished [] fresh) :
    (∀ edge, searchFrom g starts fresh = some edge → g.OnCycle edge) ∧
      (searchFrom g starts fresh = none → ∀ dir ∈ starts, g.Grounded dir) := by
  induction starts, fresh using searchFrom.induct g with
  | case1 fresh => simp [searchFrom]
  | case2 dir starts fresh unseen edge found =>
      have right := (search_correct g).1 [] dir fresh unseen finished (by simp)
      rw [searchFrom, dif_pos unseen]
      simp only [found] at right ⊢
      exact ⟨fun edge' same => Option.some.inj same ▸ right, by simp⟩
  | case3 dir starts fresh unseen rest shrunk found ih =>
      have right := (search_correct g).1 [] dir fresh unseen finished (by simp)
      rw [searchFrom, dif_pos unseen]
      simp only [found] at right ⊢
      obtain ⟨closed, all⟩ := ih right.1
      exact ⟨closed, fun none => List.forall_mem_cons.mpr
        ⟨right.2 dir (List.mem_singleton_self _), all none⟩⟩
  | case4 dir starts fresh seen ih =>
      rw [searchFrom, dif_neg seen]
      obtain ⟨closed, all⟩ := ih finished
      exact ⟨closed, fun none => List.forall_mem_cons.mpr
        ⟨finished dir seen (by simp), all none⟩⟩

/-- At first, nothing that the graph mentions has been seen. -/
theorem finished_start (g : DependencyGraph) : g.Finished [] g.directories :=
  fun _ unmentioned _ => grounded_of_unmentioned unmentioned

/-- An edge that is found **lies on a cycle**. -/
theorem closingEdge?_eq_some {edge : Edge} (h : g.closingEdge? = some edge) : g.OnCycle edge :=
  (searchFrom_correct g g.keys g.directories g.finished_start).1 edge h

/-- No edge is found exactly if there **is no cycle**. -/
theorem closingEdge?_eq_none : g.closingEdge? = none ↔ ∀ dir, ¬ TransGen g.DependsOn dir dir := by
  constructor
  · intro none dir
    have all := (searchFrom_correct g g.keys g.directories g.finished_start).2 none
    by_cases known : dir ∈ g.keys
    · exact (all dir known).not_cyclic
    · intro cycle
      obtain ⟨dep, depends, -⟩ := TransGen.head'_iff.mp cycle
      exact known depends.known
  · intro acyclic
    cases found : g.closingEdge? with
    | none => rfl
    | some edge => exact absurd (closingEdge?_eq_some found).cyclic (acyclic edge.source)

/-- **Cycles are detected** in every graph, whatever edges it has. None is found exactly if there is
none, and otherwise the wording names the ends of an edge of the graph that lies on a cycle. -/
theorem detects_cycles (g : DependencyGraph) :
    (g.closingEdge? = none ↔ ∀ dir, ¬ TransGen g.DependsOn dir dir) ∧
      ∀ edge, g.closingEdge? = some edge →
        edge.text = edge.source ++ " -> " ++ edge.target ∧
          edge.target ∈ g.dependencies edge.source ∧
          ReflTransGen g.DependsOn edge.target edge.source := by
  refine ⟨closingEdge?_eq_none, fun edge found => ?_⟩
  obtain ⟨depends, returns⟩ := closingEdge?_eq_some found
  exact ⟨rfl, depends, returns⟩

/-- Two directories that depend on each other, and on others besides. -/
def entangled : DependencyGraph :=
  .ofList [("egg", ["shell", "hen", "hen"]), ("hen", ["gone", "egg"]), ("shell", [])]

theorem detects_cycles_sample :
    entangled.closingEdge? = some ⟨"hen", "egg"⟩ ∧ Edge.text ⟨"hen", "egg"⟩ = "hen -> egg" ∧
      "egg" ∈ entangled.dependencies "hen" ∧ ReflTransGen entangled.DependsOn "egg" "hen" := by
  have found : entangled.closingEdge? = some ⟨"hen", "egg"⟩ := by decide +kernel
  exact ⟨found, (detects_cycles entangled).2 _ found⟩

/-- Where two chains of dependencies meet again, there is no cycle yet. -/
example : closingEdge? (.ofList [("a", ["b", "c"]), ("b", ["d"]), ("c", ["d"])]) = none := by
  decide +kernel

end Dispatch.DependencyGraph
