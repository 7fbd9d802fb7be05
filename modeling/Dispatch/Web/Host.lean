import Dispatch.Net.Ipv6
import Dispatch.Text.Punycode
import Dispatch.Web.Percent

/-!
# Hosts

An address names a machine by a host name or by a number.

## Main definitions

* `UrlError`: what can be wrong with an address.
* `Host`: how a machine is named.
* `Host.parse`, `Host.parseOpaque`: the host that a text names.
-/

namespace Dispatch

/-- What is **wrong with an address**. -/
inductive UrlError where
  | emptyHost
  | badName
  | badPort
  | badIpv4
  | badIpv6
  | badCharacter
  /-- It is relative, and there is nothing that it is relative to. -/
  | noBase
  /-- It is relative to an address that has no hierarchy. -/
  | opaqueBase
deriving DecidableEq, Repr

/-- The wording of what is wrong with an address. -/
def UrlError.message : UrlError → String
  | emptyHost => "empty host"
  | badName => "invalid international domain name"
  | badPort => "invalid port number"
  | badIpv4 => "invalid IPv4 address"
  | badIpv6 => "invalid IPv6 address"
  | badCharacter => "invalid domain character"
  | noBase => "relative URL without a base"
  | opaqueBase => "relative URL with a cannot-be-a-base base"

/-- How a **machine is named**. -/
inductive Host where
  | name (text : String)
  | ipv4 (address : Ipv4)
  | ipv6 (address : Ipv6)
deriving DecidableEq

namespace Host

/-- The text of a host; a number of six or more bytes stands in brackets. -/
def text : Host → List Char
  | name text => text.toList
  | ipv4 address => address.text
  | ipv6 address => '[' :: address.text ++ [']']

/-- A character of ASCII that can be seen. -/
def isVisible (c : Char) : Bool := 0x21 ≤ c.toNat && c.toNat ≤ 0x7E

/-- A character of ASCII that no host name may hold. -/
def isDenied (c : Char) : Bool :=
  c.toNat < 0x80 && (!isVisible c || "%#/:<>?@[\\]^`\x7b|\x7d".toList.contains c)

/-- A label of a host name in lower case; one with characters outside ASCII is written in ASCII. -/
def asciiLabel (label : List Char) : List Char :=
  let lower := label.map Char.toLower
  if label.all fun c => c.toNat < 0x80 then lower else "xn--".toList ++ Punycode.encode lower

/-- A host name in lower case and in ASCII. -/
def asciiName (cs : List Char) : List Char :=
  ['.'].intercalate ((cs.splitOn '.').map asciiLabel)

/-- The address between brackets. -/
def bracketed (cs : List Char) : Except UrlError Host :=
  if cs.getLast? = some ']' then
    match Ipv6.parse? cs.dropLast with
    | some address => .ok (ipv6 address)
    | none => .error .badIpv6
  else .error .badIpv6

/-- The **host** that a text names. -/
def parse : List Char → Except UrlError Host
  | '[' :: cs => bracketed cs
  | cs =>
    let ascii := asciiName (Percent.decodeText (String.ofList cs)).toList
    if ascii.any isDenied then .error .badName
    else if ascii.isEmpty then .error .emptyHost
    else if Ipv4.endsInNumber ascii then
      match Ipv4.ofHostName? ascii with
      | some address => .ok (ipv4 address)
      | none => .error .badIpv4
    else .ok (name (String.ofList ascii))

/-- The host that a text names where nothing is known about the names. -/
def parseOpaque : List Char → Except UrlError Host
  | '[' :: cs => bracketed cs
  | cs =>
    if cs.any fun c => "\x00\t\n\r #/:<>?@[\\]^|".toList.contains c then .error .badCharacter
    else
      let keep c := isVisible c || c = ' '
      .ok (name (String.ofList (Percent.encode keep (String.ofList cs))))

end Host

end Dispatch
