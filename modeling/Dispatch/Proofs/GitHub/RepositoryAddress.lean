import Dispatch.Proofs.GitHub.Requests
import Dispatch.Proofs.Naming

/-!
# The address of a repository

A repository is looked up at `repos/` and its name, below the address of the client. The name is put
there as it is, so it is read as part of a reference: a question mark or a hash ends the path, a
backslash divides segments, and line breaks, tabs and the white space at the end do not count. The
check of names rules out percent signs and points at the ends of the two parts, and none of these.

## Main definitions

* `GitHub.IsInert`: a name that is read as it is written.
* `GitHub.IsRepositoryAt`: an address is that of a repository.
* `GitHub.Client.Asks`: where a client turns to when it looks up a repository.

## Main results

* `GitHub.isRepositoryAt_iff`: which names lead to their repositories.
* `GitHub.getRepository_addresses`: where every name leads.
* `GitHub.getRepository_mistaken`: that not every name leads to its repository.
-/

namespace Dispatch

namespace GitHub

open Http Text

variable {address url url' : Url} {token name owner repo : String} {front : List String}

/-! ### Names -/

/-- A **mark** means something else in a reference than itself. -/
def isMark (c : Char) : Bool := "?#\\\t\n\r".toList.contains c

/-- A name is **inert** if it has no marks, and no margin at its end. -/
structure IsInert (name : String) : Prop where
  unmarked : ∀ c ∈ name.toList, isMark c = false
  noMargin : ∀ c ∈ name.toList.getLast?, Url.isMargin c = false

instance (name : String) : Decidable (IsInert name) :=
  decidable_of_iff (name.toList.any isMark = false ∧ name.toList.getLast?.any Url.isMargin = false)
    ⟨fun h => ⟨by simpa using h.1, (Option.any_eq_false _ _).mp h.2⟩,
      fun h => ⟨by simpa using h.unmarked, (Option.any_eq_false _ _).mpr h.noMargin⟩⟩

theorem isMark_eq_false {c : Char} : isMark c = false ↔
    c ≠ '?' ∧ c ≠ '#' ∧ c ≠ '\\' ∧ Url.isSkipped c = false := by
  simp [isMark, Url.isSkipped, and_assoc]

/-- A repository is **at an address** if the path is that of the interface, `repos`, and two
segments that stand for the owner and the name of the repository, and if there is no query. -/
structure IsRepositoryAt (address : Url) (owner repo : String) (url : Url) : Prop where
  path : ∃ front first second, address.withFinalSlash.path = .segments (front ++ [""]) ∧
    url.path = .segments (front ++ ["repos", first, second]) ∧
    Percent.decodeText first = owner ∧ Percent.decodeText second = repo
  noQuery : url.query = none

/-- Where a client **asks** for a repository, whatever it is answered. -/
def Client.Asks (c : Client) (name : String) (url : Url) : Prop :=
  ∀ server, (serve server [] (c.answer (.getRepository name))).2 =
    [.get url (c.headers Client.jsonForm)]

theorem Client.Asks.unique {c : Client} (h : c.Asks name url) (h' : c.Asks name url') :
    url = url' := by
  have same := (h fun _ r => .error (.badScheme r.url)).symm.trans (h' _)
  exact congrArg Request.url (List.cons.inj same).1

/-! ### Where clients turn to -/

theorem scheme_withFinalSlash (address : Url) :
    address.withFinalSlash.scheme = address.scheme := by
  rw [Url.withFinalSlash]
  split <;> split <;> rfl

theorem authority_withFinalSlash (address : Url) :
    address.withFinalSlash.authority = address.authority := by
  rw [Url.withFinalSlash]
  split <;> split <;> rfl

/-- With a slash at the end of its path, an address is **a place** to follow references from. -/
theorem exists_front (h : address.IsHierarchical) :
    ∃ front, address.withFinalSlash.path = .segments (front ++ [""]) := by
  obtain ⟨parts, form⟩ := h
  rw [Url.withFinalSlash, form]
  dsimp only
  split
  · next slash =>
    obtain ⟨front, rfl⟩ := List.getLast?_eq_some_iff.mp slash
    exact ⟨front, form⟩
  · exact ⟨parts, rfl⟩

/-- A client **asks once** for a repository, and where that is depends on what counts of the
name. -/
theorem exists_asked (api : IsApi address) (token name : String)
    (place : address.withFinalSlash.path = .segments (front ++ [""])) :
    ∃ url, (Client.ofAddress address token).Asks name url ∧
      url.scheme = address.scheme ∧ url.authority = address.authority ∧
      url.path = .segments (Url.walk (front ++ ["repos"])
        (Url.divide true (Url.pathText (Url.cleanedEnd name.toList)))) ∧
      url.query = (Url.queryText (Url.cleanedEnd name.toList)).map
        (Url.encoded (Url.staysInQuery true)) := by
  obtain ⟨url, joined, scheme, authority, path, query⟩ :=
    Url.join_stem place Client.isStem_repos (Client.begins_repos name)
  have special := isSpecial_of_isReachable api.reachable
  rw [← scheme_withFinalSlash] at special
  rw [special] at path query
  rw [place] at path
  rw [scheme_withFinalSlash] at scheme
  have reachable : isReachable url = true := by
    rw [isReachable, scheme]
    exact api.reachable
  have found : (Client.ofAddress address token).address ("repos/" ++ name) = .ok url := by
    rw [Client.address, Client.ofAddress, joined]
  refine ⟨url, fun server => ?_, scheme, authority.trans (authority_withFinalSlash address),
    by simpa [Url.Path.place, Client.repos] using path, query⟩
  rw [Client.answer, Client.get, serve_bind, Client.serve_fetch found reachable]
  cases received (server [] _) with
  | error e => rfl
  | ok response => exact Client.serve_meaning _ _

/-! ### Names without marks -/

theorem percent_notMem {part : List Char} (h : Repository.IsPart part) : '%' ∉ part :=
  fun mem => (h.allowed _ mem).2.2.2 rfl

theorem isPart_down {part : List Char} (h : Repository.IsPart part) :
    Url.isUp part = false ∧ Url.isHere part = false :=
  Url.leadsDown (percent_notMem h) h.first

/-- **What counts** of a name without marks: all but the margin at its end. -/
theorem unmarked_read (named : Repository.IsNamed name owner repo)
    (unmarked : ∀ c ∈ name.toList, isMark c = false) :
    Url.divide true (Url.pathText (Url.cleanedEnd name.toList)) =
        [owner.toList, repo.toList.rdropWhile Url.isMargin] ∧
      Url.queryText (Url.cleanedEnd name.toList) = none := by
  have joined : name.toList = owner.toList ++ '/' :: repo.toList := by
    rw [named.joined]
    simp
  have counts : name.toList.rdropWhile Url.isMargin =
      owner.toList ++ '/' :: repo.toList.rdropWhile Url.isMargin := by
    rw [joined, Url.rdropWhile_append_cons (by decide)]
  have within : ∀ c ∈ name.toList.rdropWhile Url.isMargin, isMark c = false := fun c mem =>
    unmarked c ((List.rdropWhile_prefix _ _).subset mem)
  have cleaned : Url.cleanedEnd name.toList = name.toList.rdropWhile Url.isMargin := by
    rw [Url.cleanedEnd, List.filter_eq_self]
    intro c mem
    simp [(isMark_eq_false.mp (within c mem)).2.2.2]
  have uncut : ∀ mark ∈ ['#', '?'], Url.cut (· = mark) (name.toList.rdropWhile Url.isMargin) =
      (name.toList.rdropWhile Url.isMargin, none) := by
    intro mark own
    refine Url.cut_of_none fun c mem => ?_
    have plain := within c mem
    rw [decide_eq_false_iff_not]
    rintro rfl
    simp only [List.mem_cons, List.not_mem_nil, or_false] at own
    rcases own with rfl | rfl <;> cases plain
  have undivided : ∀ part : List Char, '/' ∉ part → (∀ c ∈ part, isMark c = false) →
      ∀ c ∈ part, Url.isDivider true c = false := by
    intro part noSlash plain c mem
    have apart : c ≠ '/' := fun slash => noSlash (slash ▸ mem)
    simp [Url.isDivider, apart, (isMark_eq_false.mp (plain c mem)).2.2.1]
  rw [counts] at within
  constructor
  · rw [cleaned, Url.pathText, uncut '#' (by decide), uncut '?' (by decide), counts,
      Url.divide_cons (undivided _ named.ofOwner.noSlash fun c mem => within c (by simp [mem])),
      Url.divide_of_none (undivided _ _ fun c mem => within c (by simp [mem]))]
    exact fun mem => named.ofRepo.noSlash ((List.rdropWhile_prefix _ _).subset mem)
  · rw [cleaned, Url.queryText, uncut '#' (by decide), uncut '?' (by decide)]

/-- Where a name without marks **leads**. -/
theorem unmarked_walk (named : Repository.IsNamed name owner repo)
    (unmarked : ∀ c ∈ name.toList, isMark c = false) (front : List String) :
    Url.walk (front ++ ["repos"]) (Url.divide true (Url.pathText (Url.cleanedEnd name.toList))) =
      front ++ ["repos", Url.encoded Url.staysInPath owner.toList,
        Url.encoded Url.staysInPath (repo.toList.rdropWhile Url.isMargin)] := by
  have within := List.rdropWhile_prefix Url.isMargin repo.toList
  have down : Url.isUp (repo.toList.rdropWhile Url.isMargin) = false ∧
      Url.isHere (repo.toList.rdropWhile Url.isMargin) = false := by
    have plain : '%' ∉ repo.toList.rdropWhile Url.isMargin := fun mem =>
      percent_notMem named.ofRepo (within.subset mem)
    refine Url.leadsDown plain fun point => ?_
    obtain ⟨rest, begins⟩ := List.head?_eq_some_iff.mp point
    obtain ⟨more, whole⟩ := begins ▸ within
    exact named.ofRepo.first (by rw [← whole]; rfl)
  rw [(unmarked_read named unmarked).1,
    Url.walk_next (isPart_down named.ofOwner) _ (List.cons_ne_nil _ _), Url.walk_last down]
  simp

/-- The second part of a name **counts to its end** if there is no margin, and only then. -/
theorem rdropWhile_eq_iff (named : Repository.IsNamed name owner repo) :
    repo.toList.rdropWhile Url.isMargin = repo.toList ↔
      ∀ c ∈ name.toList.getLast?, Url.isMargin c = false := by
  have some_char := named.ofRepo.nonempty
  have last : name.toList.getLast? = some (repo.toList.getLast some_char) := by
    rw [named.joined, String.toList_append, List.getLast?_append,
      List.getLast?_eq_some_getLast some_char, Option.some_or]
  rw [List.rdropWhile_eq_self_iff, last]
  simp [some_char]

/-- An inert name leads to **its two parts** in encoded form. -/
theorem IsInert.leads (h : IsInert name) (named : Repository.IsNamed name owner repo)
    (path : url.path = .segments (Url.walk (front ++ ["repos"])
      (Url.divide true (Url.pathText (Url.cleanedEnd name.toList)))))
    (query : url.query = (Url.queryText (Url.cleanedEnd name.toList)).map
      (Url.encoded (Url.staysInQuery true))) :
    url.path = .segments (front ++ ["repos", Url.encoded Url.staysInPath owner.toList,
      Url.encoded Url.staysInPath repo.toList]) ∧ url.query = none := by
  rw [unmarked_walk named h.unmarked, (rdropWhile_eq_iff named).mpr h.noMargin] at path
  rw [(unmarked_read named h.unmarked).2] at query
  exact ⟨path, query⟩

/-- What counts of a name **has no marks**, segment by segment. -/
theorem unmarked_of_mem {segment : List Char} {c : Char}
    (part : segment ∈ Url.divide true (Url.pathText (Url.cleanedEnd name.toList)))
    (mem : c ∈ segment) : c ∈ name.toList ∧ isMark c = false := by
  obtain ⟨inPath, undivided⟩ := Url.mem_divide part mem
  obtain ⟨inFront, noQuestion⟩ := Url.mem_cut inPath
  obtain ⟨inName, noHash⟩ := Url.mem_cut inFront
  obtain ⟨inside, counts⟩ := Url.mem_cleanedEnd inName
  simp only [decide_eq_false_iff_not] at noQuestion noHash
  have noBackslash : c ≠ '\\' := by
    rintro rfl
    cases undivided
  exact ⟨inside, isMark_eq_false.mpr ⟨noQuestion, noHash, noBackslash, counts⟩⟩

theorem percent_notMem_name (named : Repository.IsNamed name owner repo) : '%' ∉ name.toList := by
  rw [named.joined]
  simp only [String.toList_append, List.mem_append, not_or]
  exact ⟨⟨percent_notMem named.ofOwner, by decide⟩, percent_notMem named.ofRepo⟩

/-- A name that leads to its repository **has no marks**, since its parts are segments of what
counts of it. -/
theorem unmarked_of_walk (named : Repository.IsNamed name owner repo) {first second : String}
    (path : Url.walk (front ++ ["repos"])
      (Url.divide true (Url.pathText (Url.cleanedEnd name.toList))) =
        front ++ ["repos", first, second])
    (own : Percent.decodeText first = owner) (own' : Percent.decodeText second = repo) :
    ∀ c ∈ name.toList, isMark c = false := by
  have parts : ∀ part ∈ [first, second], Url.ComesFrom _ part :=
    Url.comesFrom_of_walk (by rw [path, List.append_assoc]; rfl)
  have plain : ∀ segment ∈ Url.divide true (Url.pathText (Url.cleanedEnd name.toList)),
      '%' ∉ segment := fun segment part mem =>
    percent_notMem_name named (unmarked_of_mem part mem).1
  have some_char {part : String} (h : Repository.IsPart part.toList) : part ≠ "" := by
    rintro rfl
    exact h.nonempty rfl
  have first' := (parts first (by simp)).mem plain own (some_char named.ofOwner)
  have second' := (parts second (by simp)).mem plain own' (some_char named.ofRepo)
  intro c mem
  rw [named.joined] at mem
  simp only [String.toList_append, List.mem_append] at mem
  rcases mem with (mem | slash) | mem
  · exact (unmarked_of_mem first' mem).2
  · obtain rfl : c = '/' := by simpa using slash
    decide
  · exact (unmarked_of_mem second' mem).2

/-- **Which names lead to their repositories**: inert ones, and only those. -/
theorem isRepositoryAt_iff (named : Repository.IsNamed name owner repo)
    (place : address.withFinalSlash.path = .segments (front ++ [""]))
    (path : url.path = .segments (Url.walk (front ++ ["repos"])
      (Url.divide true (Url.pathText (Url.cleanedEnd name.toList)))))
    (query : url.query = (Url.queryText (Url.cleanedEnd name.toList)).map
      (Url.encoded (Url.staysInQuery true))) :
    IsRepositoryAt address owner repo url ↔ IsInert name := by
  constructor
  · rintro ⟨⟨front', first, second, place', path', own, own'⟩, -⟩
    obtain rfl : front = front' := by
      rw [place] at place'
      exact List.append_cancel_right (Url.Path.segments.inj place')
    rw [path] at path'
    have walked := Url.Path.segments.inj path'
    have unmarked := unmarked_of_walk named walked own own'
    refine ⟨unmarked, (rdropWhile_eq_iff named).mp ?_⟩
    -- Without marks, all that can be missing of the name is at its end.
    rw [unmarked_walk named unmarked] at walked
    obtain ⟨-, rfl⟩ : _ ∧ Url.encoded Url.staysInPath (repo.toList.rdropWhile Url.isMargin) =
      second := by simpa using walked
    rw [Url.decodeText_encoded fun mem =>
      percent_notMem named.ofRepo ((List.rdropWhile_prefix _ _).subset mem)] at own'
    conv_rhs => rw [← own', String.toList_ofList]
  · intro inert
    obtain ⟨path, noQuery⟩ := inert.leads named path query
    refine ⟨⟨front, _, _, place, path, ?_, ?_⟩, noQuery⟩
    · rw [Url.decodeText_encoded (percent_notMem named.ofOwner), String.ofList_toList]
    · rw [Url.decodeText_encoded (percent_notMem named.ofRepo), String.ofList_toList]

/-- Two texts with a slash in them are the same only if they are **on both sides** of their first
slashes. -/
theorem sides_eq {first second first' second' : List Char} (noSlash : '/' ∉ first)
    (noSlash' : '/' ∉ first') (same : first ++ '/' :: second = first' ++ '/' :: second') :
    first = first' ∧ second = second' := by
  have divided := congrArg segments same
  rw [segments, segments, List.splitOn_append_cons_self, List.splitOn_append_cons_self, ← segments,
    ← segments, ← segments, ← segments, segments_eq_singleton noSlash,
    segments_eq_singleton noSlash', List.singleton_append, List.singleton_append] at divided
  obtain ⟨first, rest⟩ := List.cons.inj divided
  exact ⟨first, segments_injective rest⟩

/-- The text of an address **shows** the two segments after `repos`. -/
theorem segments_eq_of_target {first second first' second' : String}
    (noSlash : '/' ∉ first.toList) (noSlash' : '/' ∉ first'.toList)
    (path : url.path = .segments (front ++ ["repos", first, second])) (noQuery : url.query = none)
    (path' : url'.path = .segments (front ++ ["repos", first', second']))
    (noQuery' : url'.query = none) (same : url'.target = url.target) :
    first' = first ∧ second' = second := by
  rw [Url.target, Url.target, path, path', noQuery, noQuery'] at same
  have texts := String.ofList_injective same
  simp only [Url.Path.text, List.flatMap_append, List.flatMap_cons, List.flatMap_nil,
    Option.elim_none, List.append_nil, List.cons_append, List.append_cancel_left_eq,
    List.cons.injEq, true_and] at texts
  obtain ⟨owners, repos⟩ := sides_eq noSlash' noSlash texts
  exact ⟨String.toList_inj.mp owners, String.toList_inj.mp repos⟩

/-- **Where every name leads.** For the name of a repository, a client asks once, at an address on
the machine that it has been given. That is the address of the repository if the name is inert, and
only then. Different inert names are asked for in different places. -/
theorem getRepository_addresses (api : IsApi address) (token : String)
    (named : Repository.split name = .ok (owner, repo)) :
    ∃ url, (Client.ofAddress address token).Asks name url ∧
      url.scheme = address.scheme ∧ url.authority = address.authority ∧
      (IsRepositoryAt address owner repo url ↔ IsInert name) ∧
      ∀ name' url', Repository.isName name' = true →
        (Client.ofAddress address token).Asks name' url' → IsInert name → IsInert name' →
        url'.target = url.target → name' = name := by
  have named := Repository.split_eq_ok.mp named
  obtain ⟨front, place⟩ := exists_front api.hierarchical
  obtain ⟨url, asks, scheme, authority, path, query⟩ := exists_asked api token name place
  refine ⟨url, asks, scheme, authority, isRepositoryAt_iff named place path query,
    fun name' url' isName' asks' inert inert' same => ?_⟩
  obtain ⟨owner', repo', named'⟩ := Repository.isName_iff.mp isName'
  obtain ⟨own, asks'', -, -, path', query'⟩ := exists_asked api token name' place
  obtain rfl := asks''.unique asks'
  obtain ⟨path, noQuery⟩ := inert.leads named path query
  obtain ⟨path', noQuery'⟩ := inert'.leads named' path' query'
  obtain ⟨owners, repos⟩ := segments_eq_of_target (Url.slash_notMem_encoded named.ofOwner.noSlash)
    (Url.slash_notMem_encoded named'.ofOwner.noSlash) path noQuery path' noQuery' same
  have owners := Url.encoded_injective (percent_notMem named'.ofOwner)
    (percent_notMem named.ofOwner) owners
  have repos := Url.encoded_injective (percent_notMem named'.ofRepo)
    (percent_notMem named.ofRepo) repos
  rw [named.joined, named'.joined, String.toList_inj.mp owners, String.toList_inj.mp repos]

end GitHub

namespace Sample

/-- What the client asks for when it looks up a repository, whatever it is answered. -/
def targets (name : String) : List String :=
  (GitHub.serve (fun _ r => .error (.unanswered r.url [])) []
    (enterpriseClient.answer (.getRepository name))).2.map (·.url.target)

end Sample

namespace GitHub

open Http Text

/-- Blanks within a name, colons and letters outside ASCII are **inert**. -/
theorem getRepository_addresses_sample :
    Repository.split "a: b/œuvre" = .ok ("a: b", "œuvre") ∧
      ∃ url, Sample.enterpriseClient.Asks "a: b/œuvre" url ∧
        IsRepositoryAt Sample.enterprise "a: b" "œuvre" url := by
  have named : Repository.split "a: b/œuvre" = .ok ("a: b", "œuvre") := by decide +kernel
  obtain ⟨url, asks, -, -, leads, -⟩ :=
    getRepository_addresses Sample.isApi_enterprise "token" named
  exact ⟨named, url, asks, leads.mpr (by decide +kernel)⟩

/-- A name with a question mark **asks with a query**, one with a hash asks for another repository,
as does one with a blank at its end, and those with backslashes or with tabs around points lead
away from all repositories. -/
theorem getRepository_mistaken :
    (∀ name ∈ ["ada/tool", "a?b/c", "ada/tool#x", "ada/tool ", "x\\..\\..\\user/repos", "a/\t..\t"],
      Repository.isName name = true) ∧
    Sample.targets "ada/tool" = ["/api/v3/repos/ada/tool"] ∧
    Sample.targets "a?b/c" = ["/api/v3/repos/a?b/c"] ∧
    Sample.targets "ada/tool#x" = Sample.targets "ada/tool" ∧
    Sample.targets "ada/tool " = Sample.targets "ada/tool" ∧
    Sample.targets "x\\..\\..\\user/repos" = ["/api/v3/user/repos"] ∧
    Sample.targets "a/\t..\t" = ["/api/v3/repos/"] := by
  decide +kernel

end GitHub

end Dispatch
