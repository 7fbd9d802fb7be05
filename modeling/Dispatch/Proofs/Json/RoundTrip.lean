import Dispatch.Config.Repository
import Dispatch.Proofs.Identifier
import Dispatch.Proofs.Json.Record
import Dispatch.Proofs.Timestamp
import Dispatch.Submission.Request

/-!
# Records read back

The records that are exchanged are read back from what was written of them. No field is lost or
mixed up with another, because the names of the fields of a record differ. There are bounds to
this. An identifier is read back if it is a UUID, and a point in time in the years that can be
read. The hook secret of a repository is not written at all: what is written does not depend on it,
and what is read back has none.

## Main definitions

* `Run.ids`, `QueueItem.ids`, `Repository.ids`: the identifiers within a record.
* `Run.stamps`, `QueueItem.stamps`: the points in time within a record.

## Main results

* `records_readBack`: the law for every record.
* `RunSettings.ofJson?_toJson`, `Run.ofJson?_toJson` and so on: the law for single records.
-/

namespace Dispatch

open Json (nullable?_ofOption dictionary?_ofDictionary)

/-! ### Identifiers and points in time -/

theorem Id.ofJson?_toJson {id : Id} (h : id.IsUuid) : ofJson? id.toJson = some id :=
  parse?_text_iff.mpr h

theorem Id.nullable?_toJson {o : Option Id} (h : ∀ id ∈ o, id.IsUuid) :
    Json.nullable? ofJson? (.ofOption toJson o) = some o :=
  nullable?_ofOption (fun _ _ => nofun) fun id mem => ofJson?_toJson (h id mem)

theorem Timestamp.ofJson?_toJson {t : Timestamp} (readable : yearInRange t.year = true) :
    ofJson? t.toJson = some t :=
  parse?_text readable

theorem Timestamp.nullable?_toJson {o : Option Timestamp}
    (readable : ∀ t ∈ o, yearInRange t.year = true) :
    Json.nullable? ofJson? (.ofOption toJson o) = some o :=
  nullable?_ofOption (fun _ _ => nofun) fun t mem => ofJson?_toJson (readable t mem)

/-! ### Settings -/

/- The readers are chains of binds. They are opened as existential statements: to reduce a bind in
place would have the readers of all later fields evaluated to see that both sides agree. -/

@[simp] theorem Resources.ofJson?_toJson (r : Resources) : ofJson? r.toJson = some r := by
  simp [ofJson?, toJson, Option.bind_eq_some_iff, -Option.bind_some]

@[simp] theorem RunSettings.ofJson?_toJson (r : RunSettings) : ofJson? r.toJson = some r := by
  simp [ofJson?, toJson, Option.bind_eq_some_iff, -Option.bind_some, -Bool.exists_bool]

@[simp] theorem RunSettings.dictionary?_toJson (d : Dictionary RunSettings) :
    Json.dictionary? ofJson? (.ofDictionary toJson d) = some d :=
  dictionary?_ofDictionary fun entry _ => ofJson?_toJson entry.2

theorem TaskSettings.ofJson?_toJson (s : TaskSettings) : ofJson? s.toJson = some s := by
  simp [ofJson?, toJson, Option.bind_eq_some_iff, -Option.bind_some]

theorem RepoConfig.ofJson?_toJson (c : RepoConfig) : ofJson? c.toJson = some c := by
  simp [ofJson?, toJson, Option.bind_eq_some_iff, -Option.bind_some, -Bool.exists_bool]

theorem SubmissionRequest.ofJson?_toJson (r : SubmissionRequest) : ofJson? r.toJson = some r := by
  simp [ofJson?, toJson, Option.bind_eq_some_iff, -Option.bind_some, -Bool.exists_bool]

/-! ### Records with identifiers and points in time -/

/-- The identifiers within a run. -/
def Run.ids (r : Run) : List Id := [r.id, r.task]

/-- The identifiers within a queue item, those of its run included. -/
def QueueItem.ids (i : QueueItem) : List Id := i.id :: i.run.ids

/-- The identifiers within a repository. -/
def Repository.ids (r : Repository) : List Id := r.id :: r.owner.toList

/-- The points in time within a run. -/
def Run.stamps (r : Run) : List Timestamp :=
  r.createdAt :: (r.startedAt.toList ++ r.finishedAt.toList)

/-- The points in time within a queue item, those of its run included. -/
def QueueItem.stamps (i : QueueItem) : List Timestamp := i.startedAt.toList ++ i.run.stamps

theorem Run.ofJson?_toJson {r : Run} (uuids : ∀ id ∈ r.ids, id.IsUuid)
    (readable : ∀ t ∈ r.stamps, Timestamp.yearInRange t.year = true) :
    ofJson? (r.toJson Timestamp.toJson) = some r := by
  obtain ⟨own, task⟩ : r.id.IsUuid ∧ r.task.IsUuid := by simpa [ids] using uuids
  have own := Id.ofJson?_toJson own
  have task := Id.ofJson?_toJson task
  simp only [stamps, List.mem_cons, List.mem_append, Option.mem_toList] at readable
  have created := Timestamp.ofJson?_toJson (readable r.createdAt (.inl rfl))
  have started := Timestamp.nullable?_toJson fun t mem => readable t (.inr (.inl mem))
  have finished := Timestamp.nullable?_toJson fun t mem => readable t (.inr (.inr mem))
  simp [ofJson?, toJson, summary, own, task, created, started, finished, Option.bind_eq_some_iff,
    -Option.bind_some]

theorem QueueItem.ofJson?_toJson {i : QueueItem} (uuids : ∀ id ∈ i.ids, id.IsUuid)
    (readable : ∀ t ∈ i.stamps, Timestamp.yearInRange t.year = true) :
    ofJson? (i.toJson Timestamp.toJson) = some i := by
  obtain ⟨own, rest⟩ := List.forall_mem_cons.mp uuids
  have own := Id.ofJson?_toJson own
  simp only [stamps, List.mem_append, Option.mem_toList] at readable
  have run := Run.ofJson?_toJson rest fun t mem => readable t (.inr mem)
  have started := Timestamp.nullable?_toJson fun t mem => readable t (.inl mem)
  simp [ofJson?, toJson, summary, own, run, started, Option.bind_eq_some_iff, -Option.bind_some,
    -Bool.exists_bool]

theorem Repository.ofJson?_toJson {r : Repository} (uuids : ∀ id ∈ r.ids, id.IsUuid)
    (readable : Timestamp.yearInRange r.createdAt.year = true) :
    ofJson? (r.toJson Timestamp.toJson) = some { r with hookSecret := none } := by
  obtain ⟨own, rest⟩ := List.forall_mem_cons.mp uuids
  have own := Id.ofJson?_toJson own
  have owner := Id.nullable?_toJson fun id mem => rest id (Option.mem_toList.mpr mem)
  have created := Timestamp.ofJson?_toJson readable
  simp [ofJson?, toJson, own, owner, created, Option.bind_eq_some_iff, -Option.bind_some,
    -Bool.exists_bool]

/-! ### All records -/

namespace Json

/-- **Every record is read back**. This takes the identifiers within it to be UUIDs, as all are that
have a value of 128 bits, and the points in time to lie in years that can be read, as all years of
four digits do. Of a repository the hook secret alone is left out: what is written is the same for
every secret, and what is read back has none. -/
theorem records_readBack :
    (∀ i : QueueItem, (∀ id ∈ i.ids, id.IsUuid) →
      (∀ t ∈ i.stamps, Timestamp.yearInRange t.year = true) →
      QueueItem.ofJson? (i.toJson Timestamp.toJson) = some i) ∧
    (∀ s : TaskSettings, TaskSettings.ofJson? s.toJson = some s) ∧
    (∀ c : RepoConfig, RepoConfig.ofJson? c.toJson = some c) ∧
    (∀ r : SubmissionRequest, SubmissionRequest.ofJson? r.toJson = some r) ∧
    ∀ r : Repository,
      (∀ stamp secret, Repository.toJson stamp { r with hookSecret := secret } = r.toJson stamp) ∧
      ((∀ id ∈ r.ids, id.IsUuid) → Timestamp.yearInRange r.createdAt.year = true →
        Repository.ofJson? (r.toJson Timestamp.toJson) = some { r with hookSecret := none }) := by
  refine ⟨fun i => QueueItem.ofJson?_toJson, TaskSettings.ofJson?_toJson, RepoConfig.ofJson?_toJson,
    SubmissionRequest.ofJson?_toJson, fun r => ⟨fun stamp secret => ?_, ?_⟩⟩
  · rfl
  · exact Repository.ofJson?_toJson

/-! Values at the ends of what the fields can hold, some fields with and some without one. -/

namespace Sample

/-- A leap day with a fraction of nine digits. -/
def early : Timestamp where
  year := 0
  month := 2
  day := 29
  hour := 1
  minute := 2
  second := 3
  nano := 1
  month_valid := by decide
  day_valid := by decide
  hour_valid := by decide
  minute_valid := by decide
  second_valid := by decide
  nano_valid := by decide

/-- The last second of the last year of four digits. -/
def late : Timestamp where
  year := 9999
  month := 12
  day := 31
  hour := 23
  minute := 59
  second := 59
  nano := 120000000
  month_valid := by decide
  day_valid := by decide
  hour_valid := by decide
  minute_valid := by decide
  second_valid := by decide
  nano_valid := by decide

/-- The settings of a run with the largest timeout. -/
def settings : RunSettings where
  name := "build"
  command := ["make", ""]
  image := "rust"
  queue := "default"
  timeout := 0xffffffffffffffff
  resources := ⟨0xffffffff, 0, 1, 2⟩
  metadata := .ofList [("stage", "\"first\""), ("", "\n")]
  privileged := true

/-- A run that has been claimed. -/
def item : QueueItem where
  id := .foreign 0x019b2f4c7d1e7a3b9c58e6f0412d83a7 (by decide) (by decide)
  run := {
    id := .issued .run 0xffffffffffff
    task := .issued .task 1
    name := "./sub:build"
    settings
    createdAt := early
    startedAt := some late
    finishedAt := none
    status := some false }
  running := true
  runningOn := some "worker"
  startedAt := some late
  queue := "default"

/-- A repository with a hook secret. -/
def hosted : Repository where
  id := .issued .repository 1
  name := "owner/repo"
  isPrivate := true
  disabled := false
  defaultBranch := none
  metadata := .object [("hook", .text "secret")]
  owner := some (.issued .user 1)
  hookSecret := some "secret"
  createdAt := late

end Sample

theorem records_readBack_sample :
    QueueItem.ofJson? (Sample.item.toJson Timestamp.toJson) = some Sample.item ∧
      Repository.ofJson? (Sample.hosted.toJson Timestamp.toJson) =
        some { Sample.hosted with hookSecret := none } ∧ Sample.hosted.hookSecret.isSome = true :=
  ⟨records_readBack.1 Sample.item (by decide) (by decide),
    (records_readBack.2.2.2.2 Sample.hosted).2 (by decide) (by decide), rfl⟩

end Json

end Dispatch
