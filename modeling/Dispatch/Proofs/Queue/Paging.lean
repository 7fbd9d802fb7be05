import Dispatch.Proofs.Consistency
import Dispatch.Proofs.Guarantee
import Mathlib.Algebra.BigOperators.Group.List.Lemmas
import Mathlib.Algebra.GroupWithZero.Nat

/-!
# Paging through the queue

Whoever lists the queue page by page, for all repositories or for one, sees each of its items once
and in order, and nothing else; and counting tells beforehand how many there are. Neither fails for
a repository that is there, and neither changes anything.

## Main definitions

* `Page.nth`: a page by its number, of pages of one size.
* `Page.Fits`: the offset of a page is a number of 64 bits.
* `Store.Lists`: what there is to be listed.
* `Worker.PagesThrough`: what the pages and the count have to do with it.
* `Worker.PagesPartition`: what holds of them for each choice of repositories.

## Main results

* `Page.offset_eq_some`: the offset of a page is exact.
* `Page.select_nth`: which items of a listing are on a page.
* `Page.flatten_portions`: one page after the other is the beginning of the listing.
* `Store.Integrity.sum_countItems`: the items of each repository are all items together.
* `Worker.pages_partition`: the pages of the queue partition it.
-/

namespace Dispatch

/-! ### Pages -/

namespace Page

/-- The page with the given **number**, of pages of one size. -/
def nth (size number : Nat) : Page := ⟨.ofNat number, .ofNat size⟩

/-- The offset of a page **fits** 64 bits, one of which is for the sign. -/
def Fits (size number : Nat) : Prop := (number * size : Int) ≤ Int64.maxValue.toInt

/-- What a listing has **in the place** of a page. -/
def portion {α : Type} (size : Nat) (items : List α) (number : Nat) : List α :=
  (items.drop (number * size)).take size

variable {p : Page} {offset : Int64} {size number : Nat}

/-- The offset of a page is **exact**: if there is one, it is the product of the number of the page
and its size, and there is one wherever that is a number of 64 bits. -/
theorem offset_eq_some :
    p.offset = some offset ↔ offset.toInt = p.number.toInt * p.size.toInt := by
  rw [Page.offset]
  constructor
  · intro computed
    split at computed
    · next fits =>
      obtain rfl := Option.some.inj computed
      rw [Int64.toInt_minValue, Int64.toInt_maxValue] at fits
      exact Int64.toInt_ofInt_of_le fits.1 (by omega)
    · cases computed
  · intro product
    rw [← product, if_pos ⟨Int64.minValue_le_toInt _, Int64.toInt_le _⟩, Int64.ofInt_toInt]

/-- A size that may be asked for is **a number of 64 bits**. -/
theorem toInt_size (limited : size ≤ 100) : (Int64.ofNat size).toInt = size :=
  Int64.toInt_ofNat_of_lt (by omega)

/-- So is the number of a page that fits. -/
theorem Fits.toInt_number (fits : Fits size number) (positive : 1 ≤ size) :
    (Int64.ofNat number).toInt = number := by
  have small : number ≤ number * size := Nat.le_mul_of_pos_right _ positive
  rw [Fits, Int64.toInt_maxValue] at fits
  exact Int64.toInt_ofNat_of_lt (by omega)

/-- Any page that fits **can be asked for**. -/
theorem requested_nth (positive : 1 ≤ size) (limited : size ≤ 100) (fits : Fits size number) :
    requested (some (.ofNat number)) (some (.ofNat size)) = .ok (nth size number) := by
  -- Both numbers fit, so they are compared by value in all that follows.
  have sizeValue := toInt_size limited
  have zero : (0 : Int64).toInt = 0 := by decide
  have notNegative {n : Nat} {i : Int64} (same : i.toInt = n) : ¬ i < 0 := by
    rw [Int64.lt_iff_toInt_lt, same, zero]
    omega
  have notZero : Int64.ofNat size ≠ 0 := by
    rw [← Int64.toInt_inj.ne, sizeValue, zero]
    omega
  have least : min (Int64.ofNat size) maxSize = .ofNat size := by
    have within : Int64.ofNat size ≤ maxSize := by
      rw [Int64.le_iff_toInt_le, sizeValue, show maxSize.toInt = 100 by decide]
      omega
    exact if_pos within
  rw [requested, Option.getD_some, Option.getD_some,
    if_neg (notNegative (fits.toInt_number positive)), if_neg (notNegative sizeValue),
    if_neg notZero, least, nth]

/-- On a page that fits are the items of the listing **in its place**. -/
theorem select_nth {α : Type} (positive : 1 ≤ size) (limited : size ≤ 100)
    (fits : Fits size number) (items : List α) :
    (nth size number).select items = some (portion size items number) := by
  have small : number * size < 2 ^ 63 := by
    rw [Fits, Int64.toInt_maxValue] at fits
    omega
  have value : (nth size number).offset = some (.ofNat (number * size)) := by
    rw [offset_eq_some, nth, fits.toInt_number positive, toInt_size limited,
      Int64.toInt_ofNat_of_lt small, Int.natCast_mul]
  have skipped : (Int64.ofNat (number * size)).toUInt64.toNat = number * size := by
    rw [Int64.toUInt64_ofNat']
    exact UInt64.toNat_ofNat_of_lt' (by rw [UInt64.size]; omega)
  have taken : (Int64.ofNat size).toUInt64.toNat = size := by
    rw [Int64.toUInt64_ofNat']
    exact UInt64.toNat_ofNat_of_lt' (by rw [UInt64.size]; omega)
  rw [select, value, Option.map_some, skipped, nth, taken, portion]

/-- **One page after the other** is the beginning of the listing. -/
theorem flatten_portions {α : Type} (size : Nat) (items : List α) (pages : Nat) :
    ((List.range pages).map (portion size items)).flatten = items.take (pages * size) := by
  induction pages with
  | zero => simp
  | succ pages ih =>
      rw [List.range_succ, List.map_append, List.flatten_append, ih, Nat.succ_mul, List.take_add]
      simp [portion]

end Page

/-! ### What there is to be listed -/

namespace Store

variable {s : Store}

/-- The run of a queue item **belongs to a repository**, by its task. -/
def WorksFor (s : Store) (repository : Repository) (i : StoredItem) : Prop :=
  ∃ r ∈ s.runs, r.id = i.run ∧ ∃ t ∈ s.tasks, t.id = r.task ∧ t.repository = repository.id

/-- What there is **to be listed** of all repositories or of one: of the items on the queue, in
their order, those that belong to the repository, each once and with its run. -/
structure Lists (s : Store) (choice : Option Repository) (shown : List QueueItem) : Prop where
  queued : ∃ items, items.Sublist s.queue ∧
    (∀ i, i ∈ items ↔ i ∈ s.queue ∧ ∀ repository ∈ choice, s.WorksFor repository i) ∧
    s.Shows items shown
  once : (shown.map (·.run.id)).Nodup

/-- The repository that a queue item belongs to is the one of **its run's task**. -/
theorem Integrity.repositoryOfRun?_eq (whole : s.Integrity) {i : StoredItem}
    (queued : i ∈ s.queue) (repository : Repository) :
    s.repositoryOfRun? i.run = some repository.id ↔ s.WorksFor repository i := by
  obtain ⟨r, known, t, knownTask, run, task, found, foundTask⟩ := whole.item_work queued
  have owner : s.repositoryOfRun? i.run = some t.repository := by
    simp only [repositoryOfRun?, found, foundTask, Option.bind_eq_bind, Option.bind_some,
      Option.pure_def]
  rw [owner, Option.some_inj]
  constructor
  · intro same
    exact ⟨r, known, run, t, knownTask, task, same⟩
  · rintro ⟨r', known', run', t', knownTask', task', same⟩
    obtain rfl := whole.eq_of_run_id known known' (run.trans run'.symm)
    obtain rfl := whole.eq_of_task_id knownTask knownTask' (task.trans task'.symm)
    exact same

/-- The items of a choice, as they are **shown**. -/
theorem Integrity.lists (whole : s.Integrity) (choice : Option Repository) :
    ∃ shown, s.Shows (s.items (choice.map (·.id))) shown ∧ s.Lists choice shown := by
  have queued := s.items_sublist (choice.map (·.id))
  have listed (i : StoredItem) : i ∈ s.items (choice.map (·.id)) ↔
      i ∈ s.queue ∧ ∀ repository ∈ choice, s.WorksFor repository i := by
    cases choice with
    | none => simp [items]
    | some repository =>
        rw [Option.map_some, items, List.mem_filter, decide_eq_true_eq]
        refine and_congr_right fun queued => ?_
        simp [whole.repositoryOfRun?_eq queued]
  obtain ⟨shown, -, shows⟩ := whole.items_shown fun i mem => queued.mem mem
  have runs : shown.map (·.run.id) = (s.items (choice.map (·.id))).map (·.run) := by
    refine List.forall₂_eq_eq_eq ▸ List.forall₂_map_left_iff.mpr
      (List.forall₂_map_right_iff.mpr (shows.flip.imp ?_))
    rintro _ i ⟨run, found, rfl⟩
    exact (whole.run?_eq_some.mp found).2
  exact ⟨shown, shows, ⟨_, queued, listed, shows⟩,
    runs ▸ whole.itemRuns.sublist (queued.map _)⟩

/-- Items are shown **in any place** of a listing as they are shown in it. -/
theorem Shows.portion {items : List StoredItem} {shown : List QueueItem} (h : s.Shows items shown)
    (size number : Nat) :
    s.Shows (Page.portion size items number) (Page.portion size shown number) :=
  List.forall₂_take _ (List.forall₂_drop _ h)

/-- What items show is what **is answered** for them. -/
theorem Shows.mapM_eq {items : List StoredItem} {shown : List QueueItem} (h : s.Shows items shown) :
    items.mapM s.queueItem = .ok shown := by
  induction h with
  | nil => rfl
  | cons first _ ih =>
      rw [List.mapM_cons, queueItem_eq_ok.mpr first, ih]
      rfl

/-! ### Counting -/

/-- Counting for **each of some keys** counts everything once. -/
theorem sum_countP_key {α κ : Type} [DecidableEq κ] (key : α → κ) {keys : List κ}
    (distinct : keys.Nodup) {l : List α} (all : ∀ a ∈ l, key a ∈ keys) :
    (keys.map fun k => l.countP fun a => key a = k).sum = l.length := by
  induction l with
  | nil => simp
  | cons a l ih =>
      obtain ⟨first, rest⟩ := List.forall_mem_cons.mp all
      have one : (keys.map fun k => if key a = k then 1 else 0).sum = 1 := by
        rw [List.sum_map_eq_nsmul_single (key a) _ fun k other _ => if_neg (Ne.symm other),
          List.count_eq_one_of_mem distinct first]
        simp
      simp only [List.countP_cons, List.sum_map_add, ih rest, decide_eq_true_eq, one,
        List.length_cons]

/-- The items of **each repository** are all items together. -/
theorem Integrity.sum_countItems (whole : s.Integrity) :
    (s.repositories.map fun r => s.countItems (some r.id)).sum = s.countItems none := by
  have count (id : Id) : s.countItems (some id) =
      s.queue.countP fun i => s.repositoryOfRun? i.run = some id := by
    rw [countItems, items, List.countP_eq_length_filter]
  have distinct : ((s.repositories.map (·.id)).map some).Nodup :=
    whole.repositories.nodup.map fun _ _ => Option.some.inj
  have sum := sum_countP_key (fun i : StoredItem => s.repositoryOfRun? i.run) distinct
    (l := s.queue) fun i queued => ?_
  · rw [List.map_map, List.map_map] at sum
    simp only [count]
    exact sum
  · obtain ⟨r, known, t, knownTask, run, task, found, foundTask⟩ := whole.item_work queued
    obtain ⟨repository, mem, same⟩ := List.mem_map.mp (whole.taskRepository t knownTask)
    rw [(whole.repositoryOfRun?_eq queued repository).mpr
      ⟨r, known, run, t, knownTask, task, same.symm⟩]
    exact List.mem_map_of_mem (List.mem_map_of_mem mem)

end Store

/-! ### Listing and counting on demand -/

namespace Worker

open Operation

variable {s : Store}

/-- What the pages and the count **have to do with the listing** of all repositories or of one. -/
structure PagesThrough (s : Store) (choice : Option Repository) (size : Nat)
    (pages : Nat → List QueueItem) (shown : List QueueItem) : Prop where
  /-- This is to be listed. -/
  lists : s.Lists choice shown
  /-- Any page that fits can be asked for, and is answered with. -/
  answers : ∀ number, Page.Fits size number →
    Page.requested (some (.ofNat number)) (some (.ofNat size)) = .ok (.nth size number) ∧
    (listQueue (.nth size number) (choice.map (·.name))).Rests (.ok (some (pages number))) s
  /-- One page after the other is the beginning of the listing. -/
  begins : ∀ count, ((List.range count).map pages).flatten = shown.take (count * size)
  /-- So enough of them are all of it. -/
  all : ∀ count, shown.length ≤ count * size → ((List.range count).map pages).flatten = shown
  /-- Past the end there is nothing. -/
  past : ∀ number, shown.length ≤ number * size → pages number = []
  counts : (countQueue (choice.map (·.name))).Rests (.ok shown.length) s

/-- A lookup that the store answers **rests**. -/
theorem lookup_rests (call : StoreCall) {reply : call.Reply}
    (answered : ∀ now, call.run now s = (.ok reply, s)) : (store call).Rests (.ok reply) s := by
  refine (ensures_store call).mpr fun now => ?_
  rw [answered]
  exact ⟨rfl, rfl⟩

/-- A repository that is there is **found by its name**. -/
theorem repository_rests (whole : s.Integrity) {repository : Repository}
    (known : repository ∈ s.repositories) :
    (store (.getRepositoryNamed repository.name)).Rests (.ok repository) s := by
  have found : s.repositoryNamed? repository.name = some repository :=
    (Store.find?_key_eq_some whole.repositoryNames).mpr ⟨known, rfl⟩
  refine lookup_rests (.getRepositoryNamed repository.name) fun now => ?_
  rw [StoreCall.run, StoreM.look_run, Store.repositoryNamed, Store.expect_eq_ok.mpr found]

/-- Listing answers with **what the store has** on the page. -/
theorem listQueue_rests (whole : s.Integrity) (choice : Option Repository)
    (known : ∀ repository ∈ choice, repository ∈ s.repositories) {page : Page}
    {shown : Option (List QueueItem)} (answered : s.page (choice.map (·.id)) page = .ok shown) :
    (listQueue page (choice.map (·.name))).Rests (.ok shown) s := by
  cases choice with
  | none =>
      have one : (store (.listQueue page)).Rests (.ok shown) s := lookup_rests _ fun now => by
        rw [StoreCall.run, StoreM.look_run, ← answered, Option.map_none]
      exact one
  | some repository =>
      have one : (store (.listQueueOf repository.id page)).Rests (.ok shown) s :=
        lookup_rests _ fun now => by
          rw [StoreCall.run, StoreM.look_run, ← answered, Option.map_some]
      exact (repository_rests whole (known repository rfl)).bind one

/-- Counting answers with **how many items** the store has. -/
theorem countQueue_rests (whole : s.Integrity) (choice : Option Repository)
    (known : ∀ repository ∈ choice, repository ∈ s.repositories) :
    (countQueue (choice.map (·.name))).Rests (.ok (s.countItems (choice.map (·.id)))) s := by
  cases choice with
  | none =>
      have one : (store .countQueue).Rests (.ok (s.countItems none)) s :=
        lookup_rests _ fun _ => rfl
      exact one
  | some repository =>
      have one : (store (.countQueueOf repository.id)).Rests
          (.ok (s.countItems (some repository.id))) s := lookup_rests _ fun _ => rfl
      exact (repository_rests whole (known repository rfl)).bind one

/-- Of any choice there is **something to page through**, if only an empty listing. -/
theorem exists_pagesThrough (whole : s.Integrity) {choice : Option Repository}
    (known : ∀ repository ∈ choice, repository ∈ s.repositories) {size : Nat}
    (positive : 1 ≤ size) (limited : size ≤ 100) :
    ∃ pages shown, PagesThrough s choice size pages shown ∧
      shown.length = s.countItems (choice.map (·.id)) := by
  obtain ⟨shown, shows, lists⟩ := whole.lists choice
  have length : shown.length = s.countItems (choice.map (·.id)) := shows.length_eq.symm
  have begins := Page.flatten_portions size shown
  refine ⟨Page.portion size shown, shown, ?_, length⟩
  exact {
    lists
    answers := fun number fits => by
      refine ⟨Page.requested_nth positive limited fits, listQueue_rests whole choice known ?_⟩
      rw [Store.page, Page.select_nth positive limited fits, Option.mapM_some,
        (shows.portion size number).mapM_eq]
      rfl
    begins
    all := fun count enough => (begins count).trans (List.take_of_length_le enough)
    past := fun number short => by
      rw [Page.portion, List.drop_of_length_le short, List.take_nil]
    counts := length ▸ countQueue_rests whole choice known }

/-- The pages of one size **partition** the queue, for all repositories and for each of them, and
counting tells how much there is on them. -/
structure PagesPartition (s : Store) (size : Nat) : Prop where
  pages : ∀ choice : Option Repository, (∀ repository ∈ choice, repository ∈ s.repositories) →
    ∃ pages shown, PagesThrough s choice size pages shown
  /-- What there is for each repository adds up to what there is for all. -/
  total : ∃ counts : Repository → Nat,
    (∀ repository ∈ s.repositories,
      (countQueue (some repository.name)).Rests (.ok (counts repository)) s) ∧
    (countQueue none).Rests (.ok (s.repositories.map counts).sum) s

/-- **The pages of the queue partition it**, whatever their size. -/
theorem pages_partition (reachable : s.ReachableBy fun _ => True) {size : Nat}
    (positive : 1 ≤ size) (limited : size ≤ 100) : PagesPartition s size := by
  have whole := reachable.integrity
  refine ⟨fun choice known => ?_, fun r => s.countItems (some r.id), fun r mem => ?_, ?_⟩
  · obtain ⟨pages, shown, through, -⟩ := exists_pagesThrough whole known positive limited
    exact ⟨pages, shown, through⟩
  · exact countQueue_rests whole (some r) fun _ same => Option.some.inj same ▸ mem
  · rw [whole.sum_countItems]
    exact countQueue_rests whole none fun _ absent => nomatch absent

end Worker

namespace Sample

/-- A session in which the two commits are on branches of their own. -/
def branching : Session :=
  { session with host :=
      { host with refs := [("*", base, ["heads/main"]), ("*", first, ["heads/feature"]),
          ("*", second, ["heads/other"])] } }

end Sample

namespace Worker

/-- Two items are on two pages, when runs of two branches wait. -/
theorem pages_partition_sample : ∃ s : Store, s.ReachableBy (fun _ => True) ∧
    s.queue.length = 2 ∧ PagesPartition s 1 := by
  obtain ⟨_, σ, submitted, next⟩ := Session.exists_of_succeeds
    (Demand.submit 5 (Sample.request Sample.first)).operation Sample.branching
    (fun _ σ => Session.succeeds (Demand.submit 5 (Sample.request Sample.second)).operation σ
      fun _ σ => σ.store.queue.length = 2) (by decide +kernel)
  obtain ⟨_, σ', submitted', two⟩ := Session.exists_of_succeeds _ _ _ next
  have seeded : Sample.branching.store.ReachableBy fun _ => True := Sample.reachable _
  obtain ⟨reached, silent⟩ := seeded.perform rfl (fun _ _ => trivial) submitted
  have reached' := (reached.perform silent (fun _ _ => trivial) submitted').1
  exact ⟨σ'.store, reached', of_decide_eq_true two,
    pages_partition reached' (by decide) (by decide)⟩

end Worker

end Dispatch
