import Dispatch.Web.Url

/-!
# Reading addresses

An address is read on its own or relative to another one. Whatever cannot stand in the text of an
address is encoded, and the segments that go up or stay are carried out.

## Main definitions

* `Url.resolve`: the address that a text stands for, relative to another one.
* `Url.parse`: the address that a text stands for on its own.
* `Url.join`: the address that a reference leads to.
-/

namespace Dispatch.Url

/-! ### What is encoded -/

/-- The characters that stand for themselves in a segment of a path. -/
def staysInPath (c : Char) : Bool := Host.isVisible c && !"\"#<>?`\x7b\x7d".toList.contains c

/-- The characters that stand for themselves in a query. -/
def staysInQuery (special : Bool) (c : Char) : Bool :=
  Host.isVisible c && !"\"#<>".toList.contains c && !(special && c = '\x27')

/-- The characters that stand for themselves in a fragment. -/
def staysInFragment (c : Char) : Bool := Host.isVisible c && !"\"<>`".toList.contains c

/-- The characters that stand for themselves in a name or a password. -/
def staysInCredentials (c : Char) : Bool :=
  staysInPath c && !"/:;=@[\\]^|".toList.contains c

/-- A part of an address with all encoded but the characters that may stay. -/
def encoded (stays : Char → Bool) (cs : List Char) : String :=
  String.ofList (Percent.encode stays (String.ofList cs))

/-! ### Cutting -/

/-- What stands before the first character of a kind, and what stands after it if there is one. -/
def cut (p : Char → Bool) (cs : List Char) : List Char × Option (List Char) :=
  let front := cs.takeWhile (!p ·)
  match cs.drop front.length with
  | [] => (front, none)
  | _ :: rest => (front, some rest)

/-- A character that does not count at the ends of an address. -/
def isMargin (c : Char) : Bool := c.toNat ≤ 0x20

/-- The text of an address without its margins and without line breaks and tabs. -/
def cleaned (cs : List Char) : List Char :=
  (((cs.dropWhile isMargin).reverse.dropWhile isMargin).reverse).filter fun c =>
    c ≠ '\t' && c ≠ '\n' && c ≠ '\r'

/-- A letter of ASCII. -/
def isLetter (c : Char) : Bool := Percent.isAlphanumeric c && !Decimal.isDigit c

/-- A character of a scheme. -/
def isSchemeChar (c : Char) : Bool :=
  Percent.isAlphanumeric c || c = '+' || c = '-' || c = '.'

/-- The scheme in lower case, and what follows the colon after it. -/
def scheme? (cs : List Char) : Option (String × List Char) :=
  match cut (· = ':') cs with
  | (front, some rest) =>
    if front.head?.any isLetter && front.all isSchemeChar then
      some (String.ofList (front.map Char.toLower), rest)
    else none
  | _ => none

/-- A character that divides segments: a slash, and in some schemes a backslash. -/
def isDivider (special : Bool) (c : Char) : Bool := c = '/' || (special && c = '\\')

/-- The segments of a text. -/
def divide (special : Bool) (cs : List Char) : List (List Char) :=
  Text.segments (cs.map fun c => if isDivider special c then '/' else c)

/-! ### Paths -/

/-- A segment with the encoded points in it decoded, for finding out whether it is one of the
special segments. -/
def decodedPoints : List Char → List Char
  | '%' :: '2' :: 'e' :: cs => '.' :: decodedPoints cs
  | '%' :: '2' :: 'E' :: cs => '.' :: decodedPoints cs
  | c :: cs => c :: decodedPoints cs
  | [] => []

/-- The segment stays where it is. -/
def isHere (segment : List Char) : Bool := decodedPoints segment = ['.']

/-- The segment goes one level up. -/
def isUp (segment : List Char) : Bool := decodedPoints segment = ['.', '.']

/-- Goes along the segments of a path **from a place** in the hierarchy. A path that ends by going
up or staying ends with a slash. -/
def walk : (place : List String) → List (List Char) → List String
  | place, [] => place
  | place, [last] =>
    if isUp last then place.dropLast ++ [""]
    else if isHere last then place ++ [""]
    else place ++ [encoded staysInPath last]
  | place, segment :: next :: rest =>
    if isUp segment then walk place.dropLast (next :: rest)
    else if isHere segment then walk place (next :: rest)
    else walk (place ++ [encoded staysInPath segment]) (next :: rest)

/-- The path that a text stands for after an authority. -/
def absolutePath (special : Bool) : List Char → Path
  | [] => .segments (if special then [""] else [])
  | c :: cs =>
    .segments (walk [] (divide special (if isDivider special c then cs else c :: cs)))

/-! ### Authorities -/

/-- What stands before the last at sign, if there is one, and what stands after it. -/
def credentials? (cs : List Char) : Option (List Char) × List Char :=
  let host := (cs.reverse.takeWhile (· ≠ '@')).reverse
  if host.length = cs.length then (none, cs)
  else (some (cs.take (cs.length - host.length - 1)), host)

/-- The host and the port in a text; a colon within brackets belongs to the host. -/
def hostAndPort (cs : List Char) : List Char × List Char :=
  match cs with
  | '[' :: _ =>
    let inner := cs.takeWhile (· ≠ ']')
    let front := cs.take (inner.length + 1)
    let rest := cs.drop (inner.length + 1)
    (front ++ rest.takeWhile (· ≠ ':'), (rest.dropWhile (· ≠ ':')).drop 1)
  | _ => (cs.takeWhile (· ≠ ':'), (cs.dropWhile (· ≠ ':')).drop 1)

/-- The port in a text, which is left out if it is the one of the scheme. -/
def readPort (scheme : String) (cs : List Char) : Except UrlError (Option UInt16) :=
  if cs.isEmpty then .ok none
  else match Decimal.nat? cs with
    | some n =>
      if n < UInt16.size then
        let port := some (UInt16.ofNat n)
        .ok (if port = defaultPort? scheme then none else port)
      else .error .badPort
    | none => .error .badPort

/-- The host in a text. Only some schemes allow it to be empty. -/
def readHost (scheme : String) (cs : List Char) : Except UrlError Host :=
  if isSpecial scheme then if cs.isEmpty then .error .emptyHost else Host.parse cs
  else Host.parseOpaque cs

/-- The **authority** that a text stands for. -/
def readAuthority (scheme : String) (cs : List Char) : Except UrlError Authority := do
  let (credentials, rest) := credentials? cs
  let (username, password) := cut (· = ':') (credentials.getD [])
  let (hostText, portText) := hostAndPort rest
  if hostText.isEmpty && (credentials.isSome || rest ≠ []) then throw .emptyHost
  let host ← readHost scheme hostText
  return {
    username := encoded staysInCredentials username
    password := encoded staysInCredentials (password.getD [])
    host
    port := ← readPort scheme portText }

/-- The authority and the path that a text stands for which begins with an authority. -/
def fromAuthority (scheme : String) (cs : List Char) : Except UrlError (Authority × Path) := do
  let special := isSpecial scheme
  let front := cs.takeWhile (!isDivider special ·)
  return (← readAuthority scheme front, absolutePath special (cs.drop front.length))

/-- The number of dividers that a text begins with. -/
def dividers (special : Bool) (cs : List Char) : Nat := (cs.takeWhile (isDivider special)).length

/-! ### Addresses -/

/-- An address with a hierarchy, without query and fragment. -/
def located (scheme : String) (authority : Option Authority) (path : Path) : Url :=
  ⟨scheme, authority, path, none, none⟩

/-- The machine itself, in a scheme for files. -/
def localMachine : Authority := ⟨"", "", .name "", none⟩

/-- The machine that an address for files names. -/
def fileHost (cs : List Char) : Except UrlError Authority := do
  if cs.isEmpty then return localMachine
  let host ← Host.parse cs
  return { localMachine with host := if host = .name "localhost" then .name "" else host }

/-- The place in the hierarchy from which a relative path goes on. -/
def Path.place : Path → List String
  | .segments parts => parts.dropLast
  | .opaqueText _ => []

/-- The address that a path **relative to a base** leads to; `given` says whether a query comes
with it. -/
def relative (base : Url) (given : Bool) (cs : List Char) : Except UrlError Url := do
  let special := isSpecial base.scheme
  let slashes := dividers special cs
  if cs.isEmpty then
    return { base with query := if given then none else base.query, fragment := none }
  else if 2 ≤ slashes && base.scheme ≠ "file" then
    let (authority, path) ←
      fromAuthority base.scheme (cs.drop (if special then slashes else 2))
    return located base.scheme (some authority) path
  else if 2 ≤ slashes then
    let rest := cs.drop 2
    let front := rest.takeWhile (!isDivider special ·)
    return located base.scheme (some (← fileHost front))
      (absolutePath special (rest.drop front.length))
  else if slashes = 1 then return located base.scheme base.authority (absolutePath special cs)
  else
    let path := .segments (walk base.path.place (divide special cs))
    return located base.scheme base.authority path

/-- An address for files to start from. -/
def fileRoot : Url := located "file" (some localMachine) (.segments [""])

/-- The address that a text after a **scheme** stands for. -/
def absolute (base : Option Url) (scheme : String) (given : Bool) (cs : List Char) :
    Except UrlError Url := do
  let same := base.filter (·.scheme = scheme)
  if scheme = "file" then relative (same.getD fileRoot) given cs
  else if isSpecial scheme then
    let slashes := dividers true cs
    match same with
    | some base => if slashes < 2 then return ← relative base given cs
    | none => pure ()
    let (authority, path) ← fromAuthority scheme (cs.drop slashes)
    return located scheme (some authority) path
  else
    match cs with
    | '/' :: '/' :: cs =>
      let (authority, path) ← fromAuthority scheme cs
      return located scheme (some authority) path
    | '/' :: cs => return located scheme none (absolutePath false ('/' :: cs))
    | cs =>
      let path := .opaqueText (encoded (fun c => Host.isVisible c || c = ' ') cs)
      return located scheme none path

/-- The **address that a text stands for**, relative to another one if it has no scheme. -/
def resolve (base : Option Url) (s : String) : Except UrlError Url := do
  let (front, fragment) := cut (· = '#') (cleaned s.toList)
  let (cs, query) := cut (· = '?') front
  let url ← match scheme? cs, base with
    | some (scheme, rest), _ => absolute base scheme query.isSome rest
    | none, none => throw .noBase
    | none, some base =>
      match base.path with
      | .segments _ => relative base query.isSome cs
      | .opaqueText _ =>
        if cs.isEmpty && query.isNone && fragment.isSome then pure base else throw .opaqueBase
  return { url with
    query := (query.map (encoded (staysInQuery (isSpecial url.scheme)))).or url.query
    fragment := fragment.map (encoded staysInFragment) }

/-- The address that a text stands for **on its own**. -/
def parse (s : String) : Except UrlError Url := resolve none s

/-- The address that a **reference** in an address leads to. -/
def join (base : Url) (reference : String) : Except UrlError Url := resolve (some base) reference

end Dispatch.Url
