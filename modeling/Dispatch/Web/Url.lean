import Dispatch.Text.Segments
import Dispatch.Web.Host

/-!
# Addresses of resources

An address has a scheme, mostly the machine that has the resource, a path, and perhaps a query and
a fragment.

## Main definitions

* `Url`: an address.
* `Url.text`: its text.
-/

namespace Dispatch

namespace Url

/-- The **machine** that has a resource, and under what name to turn to it. -/
structure Authority where
  username : String
  password : String
  host : Host
  port : Option UInt16
deriving DecidableEq

/-- The **path** of a resource. Its segments are as they stand in the address. -/
inductive Path where
  /-- A hierarchy, from the root on. -/
  | segments (parts : List String)
  /-- A text of which nothing is known. -/
  | opaqueText (text : String)
deriving DecidableEq

end Url

/-- An **address**. -/
structure Url where
  scheme : String
  authority : Option Url.Authority
  path : Url.Path
  query : Option String
  fragment : Option String
deriving DecidableEq

namespace Url

/-- The port of a scheme for which an address need not give it. -/
def defaultPort? : String → Option UInt16
  | "http" | "ws" => some 80
  | "https" | "wss" => some 443
  | "ftp" => some 21
  | _ => none

/-- The scheme is one whose addresses always have a hierarchy. -/
def isSpecial (scheme : String) : Bool := scheme = "file" || (defaultPort? scheme).isSome

namespace Authority

/-- The name and the password before the host. -/
def credentials (a : Authority) : List Char :=
  let password := if a.password.isEmpty then [] else ':' :: a.password.toList
  if a.username.isEmpty && a.password.isEmpty then [] else a.username.toList ++ password ++ ['@']

/-- The text of an authority. -/
def text (a : Authority) : List Char :=
  let port := a.port.elim [] fun p => ':' :: Decimal.digits p.toNat
  a.credentials ++ a.host.text ++ port

end Authority

/-- The text of a path. -/
def Path.text : Path → List Char
  | .segments parts => parts.flatMap fun part => '/' :: part.toList
  | .opaqueText text => text.toList

/-- What keeps the beginning of a path from being read as an authority. -/
def guardText (u : Url) : List Char :=
  match u.authority, u.path with
  | none, .segments ("" :: _ :: _) => ['/', '.']
  | _, _ => []

/-- The **text** of an address. -/
def text (u : Url) : String :=
  let authority := u.authority.elim [] fun a => '/' :: '/' :: a.text
  let query := u.query.elim [] fun q => '?' :: q.toList
  let fragment := u.fragment.elim [] fun f => '#' :: f.toList
  String.ofList (u.scheme.toList ++ ':' :: authority ++ u.guardText ++ u.path.text ++ query ++
    fragment)

/-- The path and the query, which are what a request asks for. -/
def target (u : Url) : String :=
  String.ofList (u.path.text ++ u.query.elim [] fun q => '?' :: q.toList)

/-- The address with a slash at the end of its path. -/
def withFinalSlash (u : Url) : Url :=
  match u.path with
  | .segments parts =>
    if parts.getLast? = some "" then u else { u with path := .segments (parts ++ [""]) }
  | .opaqueText text =>
    if text.toList.getLast? = some '/' then u else { u with path := .opaqueText (text ++ "/") }

/-- The address with another query added to its own. -/
def addQuery (query : String) (u : Url) : Url :=
  match u.query with
  | none => { u with query := some query }
  | some own => { u with query := some (if own.isEmpty then query else own ++ "&" ++ query) }

end Url

end Dispatch
