import Dispatch.Proofs.Queue.Paging

/-!
# Where a page begins

The number of items before a page is computed in 64 bits, while the number of a page has no bound
but theirs. The product is checked, so no page is listed from anywhere else than its place; but
before a page far enough behind there are more items than 64 bits can tell, and the store breaks
down over it, although such a page may be asked for and nothing is on it.

## Main definitions

* `Page.IsAsked`: what holds of a page that was asked for.

## Main results

* `Page.IsAsked.offset_isSome`: which pages have an offset.
* `Page.IsAsked.select_eq_some`, `Page.IsAsked.select_eq_none`: what is on a page that has one, and
  that nothing can be told of the others.
* `Worker.listing_inPlace`: which pages of the queue are listed, and that these are in their place.
* `Worker.listing_mistaken`: that not all of them are.
-/

namespace Dispatch

/-! ### Offsets -/

namespace Page

variable {number size : Option Int64} {p : Page} {α : Type}

/-- A page that was **asked for** has a number and a size within bounds. -/
structure IsAsked (p : Page) : Prop where
  number : 0 ≤ p.number.toInt
  positive : 1 ≤ p.size.toInt
  limited : p.size.toInt ≤ 100

theorem toInt_min (i j : Int64) : (min i j).toInt = min i.toInt j.toInt := by
  have unfolded : min i j = if i ≤ j then i else j := rfl
  rw [unfolded]
  split
  · next le => rw [Int.min_eq_left (Int64.le_iff_toInt_le.mp le)]
  · next gt =>
    have lt : ¬ i.toInt ≤ j.toInt := mt Int64.le_iff_toInt_le.mpr gt
    rw [Int.min_eq_right (by omega)]

/-- Whatever is **asked for**, the page is within bounds. -/
theorem isAsked_of_requested (h : requested number size = .ok p) : p.IsAsked := by
  have zero : (0 : Int64).toInt = 0 := by decide
  have usual : defaultSize.toInt = 10 := by decide
  have most : maxSize.toInt = 100 := by decide
  rw [requested] at h
  split at h
  · cases h
  split at h
  · cases h
  next numberBound sizeBound =>
  rw [Int64.lt_iff_toInt_lt, zero] at numberBound sizeBound
  obtain rfl := Except.ok.inj h
  refine ⟨by dsimp only; omega, ?_, ?_⟩ <;> dsimp only <;> split
  · omega
  · next notZero =>
    rw [← Int64.toInt_inj, zero] at notZero
    rw [toInt_min]
    omega
  · omega
  · rw [toInt_min]
    omega

/-- A number that is not negative is **a natural number**. -/
theorem eq_ofNat {i : Int64} (le : 0 ≤ i.toInt) : i = .ofNat i.toInt.toNat := by
  rw [← Int64.ofInt_eq_ofNat, Int.toNat_of_nonneg le, Int64.ofInt_toInt]

namespace IsAsked

theorem size_nonneg (h : p.IsAsked) : 0 ≤ p.size.toInt := Int.le_trans (by decide) h.positive

/-- A page that was asked for is **one by its number**, of pages of its size. -/
theorem eq_nth (h : p.IsAsked) : p = nth p.size.toInt.toNat p.number.toInt.toNat := by
  rw [nth, ← eq_ofNat h.number, ← eq_ofNat h.size_nonneg]

/-- Its offset **can be computed** if it is a number of 64 bits, one of which is for the sign, and
only then. -/
theorem offset_isSome (h : p.IsAsked) :
    p.offset.isSome ↔ p.number.toInt * p.size.toInt ≤ Int64.maxValue.toInt := by
  rw [Option.isSome_iff_exists]
  constructor
  · rintro ⟨offset, computed⟩
    rw [← offset_eq_some.mp computed]
    exact Int64.toInt_le offset
  · intro fits
    have nonneg : 0 ≤ p.number.toInt * p.size.toInt := Int.mul_nonneg h.number h.size_nonneg
    rw [Int64.toInt_maxValue] at fits
    exact ⟨_, offset_eq_some.mpr (Int64.toInt_ofInt_of_le (by omega) (by omega))⟩

/-- What is on a page that has an offset is what a listing has **in its place**. -/
theorem select_eq_some (h : p.IsAsked) (computed : p.offset.isSome) (items : List α) :
    p.select items = some (portion p.size.toInt.toNat items p.number.toInt.toNat) := by
  have fits : Fits p.size.toInt.toNat p.number.toInt.toNat := by
    rw [Fits, Int.toNat_of_nonneg h.number, Int.toNat_of_nonneg h.size_nonneg]
    exact h.offset_isSome.mp computed
  have positive := h.positive
  have limited := h.limited
  conv_lhs => rw [h.eq_nth]
  exact select_nth (by omega) (by omega) fits items

/-- A listing that does not go beyond what comes before a page has **nothing in its place**. -/
theorem portion_eq_nil (h : p.IsAsked) {items : List α}
    (short : (items.length : Int) ≤ p.number.toInt * p.size.toInt) :
    portion p.size.toInt.toNat items p.number.toInt.toNat = [] := by
  have before : items.length ≤ p.number.toInt.toNat * p.size.toInt.toNat := by
    rw [← Int.ofNat_le, Int.natCast_mul, Int.toNat_of_nonneg h.number,
      Int.toNat_of_nonneg h.size_nonneg]
    exact short
  rw [portion, List.drop_of_length_le before, List.take_nil]

end IsAsked

/-- What is on a page without an offset **cannot be told**. -/
theorem select_eq_none (missing : p.offset = none) (items : List α) : p.select items = none := by
  rw [select, missing, Option.map_none]

end Page

/-! ### Listings -/

/-- A listing is **no longer** than the queue. -/
theorem Store.Lists.length_le {s : Store} {choice : Option Repository} {shown : List QueueItem}
    (h : s.Lists choice shown) : shown.length ≤ s.queue.length := by
  obtain ⟨items, queued, -, shows⟩ := h.queued
  exact shows.length_eq ▸ queued.length_le

namespace Worker

open Operation

variable {s : Store} {number size : Option Int64} {p : Page} {choice : Option Repository}

/-- Of any choice there is a listing, and each page that was asked for is **answered with its
place** in it or, without an offset, not at all. -/
theorem exists_listing (asked : p.IsAsked) (whole : s.Integrity)
    (known : ∀ repository ∈ choice, repository ∈ s.repositories) :
    ∃ shown, s.Lists choice shown ∧ shown.length = s.countItems (choice.map (·.id)) ∧
      (p.offset.isSome → (listQueue p (choice.map (·.name))).Rests
        (.ok (some (Page.portion p.size.toInt.toNat shown p.number.toInt.toNat))) s) ∧
      (p.offset = none → (listQueue p (choice.map (·.name))).Rests (.ok none) s) := by
  obtain ⟨shown, shows, lists⟩ := whole.lists choice
  refine ⟨shown, lists, shows.length_eq.symm, fun computed => ?_, fun missing => ?_⟩
  · refine listQueue_rests whole choice known ?_
    rw [Store.page, asked.select_eq_some computed, Option.mapM_some,
      (shows.portion _ _).mapM_eq]
    rfl
  · refine listQueue_rests whole choice known ?_
    rw [Store.page, Page.select_eq_none missing]
    rfl

/-- **Where a page begins.** The offset of a page that was asked for is how many items come before
it, and there is one if that is a number of 64 bits with a sign. Then the queue, of all repositories
or of one, is listed from there on, and nothing is listed if it is shorter. Otherwise the store
breaks down over the listing; nothing is changed either way. -/
theorem listing_inPlace (asked : Page.requested number size = .ok p) :
    (∀ offset, p.offset = some offset → offset.toInt = p.number.toInt * p.size.toInt) ∧
    (p.offset.isSome ↔ p.number.toInt * p.size.toInt ≤ Int64.maxValue.toInt) ∧
    ∀ s : Store, s.ReachableBy (fun _ => True) → ∀ choice : Option Repository,
      (∀ repository ∈ choice, repository ∈ s.repositories) →
      ∃ shown place, s.Lists choice shown ∧
        place = Page.portion p.size.toInt.toNat shown p.number.toInt.toNat ∧
        ((shown.length : Int) ≤ p.number.toInt * p.size.toInt → place = []) ∧
        (p.offset.isSome → (listQueue p (choice.map (·.name))).Rests (.ok (some place)) s) ∧
        (p.offset = none → (listQueue p (choice.map (·.name))).Rests (.ok none) s) := by
  have bounds := Page.isAsked_of_requested asked
  refine ⟨fun offset => Page.offset_eq_some.mp, bounds.offset_isSome,
    fun s reachable choice known => ?_⟩
  obtain ⟨shown, lists, -, answered, broken⟩ := exists_listing bounds reachable.integrity known
  exact ⟨shown, _, lists, rfl, bounds.portion_eq_nil, answered, broken⟩

end Worker

namespace Sample

/-- A reachable store with one item on its queue. -/
theorem exists_waiting : ∃ s : Store, s.ReachableBy (fun _ => True) ∧ s.queue.length = 1 := by
  obtain ⟨_, σ, submitted, one⟩ := Session.exists_of_succeeds
    (Demand.submit 5 (request first)).operation session
    (fun _ σ => σ.store.queue.length = 1) (by decide +kernel)
  exact ⟨σ.store, ((reachable _).perform rfl (fun _ _ => trivial) submitted).1,
    of_decide_eq_true one⟩

end Sample

namespace Worker

open Operation

/-- Nothing is on the last page of ten before which there are no more items than 64 bits can tell,
when one item waits. -/
theorem listing_inPlace_sample : ∃ (s : Store) (p : Page),
    s.ReachableBy (fun _ => True) ∧ s.queue.length = 1 ∧
    Page.requested (some 922337203685477580) none = .ok p ∧
    p.offset = some 9223372036854775800 ∧ (listQueue p none).Rests (.ok (some [])) s := by
  obtain ⟨s, reached, one⟩ := Sample.exists_waiting
  have asked : Page.requested (some 922337203685477580) none = .ok ⟨922337203685477580, 10⟩ := by
    decide +kernel
  have computed : Page.offset ⟨922337203685477580, 10⟩ = some 9223372036854775800 := by
    decide +kernel
  obtain ⟨-, -, listing⟩ := listing_inPlace asked
  obtain ⟨shown, place, lists, -, nothing, answered, -⟩ :=
    listing s reached none fun _ absent => nomatch absent
  have short : shown.length ≤ 1 := one ▸ lists.length_le
  have far : (1 : Int) ≤ (922337203685477580 : Int64).toInt * (10 : Int64).toInt := by
    decide +kernel
  refine ⟨s, _, reached, one, asked, computed, ?_⟩
  rw [← nothing (Int.le_trans (Int.ofNat_le.mpr short) far)]
  exact answered (Option.isSome_iff_exists.mpr ⟨_, computed⟩)

/-- The store **breaks down** over a page of sixteen before which there are as many items as 64
bits have numbers, although nothing is on it. -/
theorem listing_mistaken : ∃ (s : Store) (p : Page) (shown : List QueueItem),
    s.ReachableBy (fun _ => True) ∧
    Page.requested (some 1152921504606846976) (some 16) = .ok p ∧
    p.number.toInt * p.size.toInt = 18446744073709551616 ∧ p.offset = none ∧
    s.Lists none shown ∧ shown.length = 1 ∧
    Page.portion 16 shown 1152921504606846976 = [] ∧ (listQueue p none).Rests (.ok none) s := by
  obtain ⟨s, reached, one⟩ := Sample.exists_waiting
  have asked : Page.requested (some 1152921504606846976) (some 16) =
      .ok ⟨1152921504606846976, 16⟩ := by decide +kernel
  have missing : Page.offset ⟨1152921504606846976, 16⟩ = none := by decide +kernel
  have bounds := Page.isAsked_of_requested asked
  have everywhere : ∀ repository ∈ (none : Option Repository), repository ∈ s.repositories :=
    fun _ absent => nomatch absent
  obtain ⟨shown, lists, length, -, broken⟩ :=
    exists_listing bounds reached.integrity everywhere
  have single : shown.length = 1 := length.trans one
  refine ⟨s, _, shown, reached, asked, by decide +kernel, missing, lists, single, ?_,
    broken missing⟩
  exact bounds.portion_eq_nil (single ▸ by decide +kernel)

end Worker

end Dispatch
