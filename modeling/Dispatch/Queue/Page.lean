import Dispatch.Error
import Dispatch.Json.Record

/-!
# Pages of a listing

Long listings are shown page by page, counted from zero.

## Main definitions

* `Page`: a page number and a page size.
* `Page.requested`: a request for a page with defaults and limits applied.
* `Page.offset`: how many items come before the page.
* `Page.select`: the items on the page.
-/

namespace Dispatch

/-- A **page** of a listing. -/
structure Page where
  number : Int64
  size : Int64
deriving DecidableEq

namespace Page

/-- The size of a page where none is asked for. -/
def defaultSize : Int64 := 10

/-- The largest size of a page. -/
def maxSize : Int64 := 100

/-- The page that a request asks for: no size or a size of zero stands for the default size, and
a size beyond the largest for the largest. Negative numbers are refused. -/
def requested (number size : Option Int64) : Except DomainError Page :=
  let number := number.getD 0
  let size := size.getD defaultSize
  if number < 0 then .error (.invalidInput "invalid page")
  else if size < 0 then .error (.invalidInput "invalid per page")
  else .ok ⟨number, if size = 0 then defaultSize else min size maxSize⟩

/-- How many items come **before the page**, in 64 bits. The product is checked: there is none
where it takes more of them. -/
def offset (p : Page) : Option Int64 :=
  let items := p.number.toInt * p.size.toInt
  if Int64.minValue.toInt ≤ items ∧ items ≤ Int64.maxValue.toInt then some (.ofInt items) else none

/-- The items of a listing that are **on the page**, if its offset can be computed. An offset that
is negative as a number with a sign is read as one without, and so lies past the end of every
listing. -/
def select {α : Type} (p : Page) (items : List α) : Option (List α) :=
  p.offset.map fun offset => (items.drop offset.toUInt64.toNat).take p.size.toUInt64.toNat

/-- Reads a request for a page. -/
def query? (j : Json) : Option (Option Int64 × Option Int64) := do
  let m ← j.members? ["page", "per_page"]
  return (← m.optional "page" Json.int64?, ← m.optional "per_page" Json.int64?)

end Page

end Dispatch
