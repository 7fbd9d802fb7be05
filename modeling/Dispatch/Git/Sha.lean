import Dispatch.Text.Blank

/-!
# Commit hashes

## Main definitions

* `Git.isHash`: a text is the hash of a commit, perhaps with white space around it.
* `Git.zeroHash`: the hash that stands for the absence of a commit.
-/

namespace Dispatch.Git

/-- A hexadecimal digit of either case. -/
def isHexDigit (c : Char) : Bool :=
  ('0' ≤ c && c ≤ '9') || ('a' ≤ c && c ≤ 'f') || ('A' ≤ c && c ≤ 'F')

/-- Exactly forty hexadecimal digits. -/
def isBareHash (cs : List Char) : Bool := cs.length = 40 && cs.all isHexDigit

/-- A text is a **hash** when it has exactly forty hexadecimal digits between any white space. -/
def isHash (s : String) : Bool := isBareHash (Text.trim s.toList)

/-- The hash that a code host reports where there is no commit, as for a new branch. -/
def zeroHash : String := String.ofList (List.replicate 40 '0')

end Dispatch.Git
