/-
Hosts of URLs. A well-known scheme has a domain name or a numeric address; any other scheme has an opaque name, which is
kept as written, or an address in brackets.
-/
import StyleIndex.Domain
import StyleIndex.Url.Address
import StyleIndex.Url.Percent

namespace StyleIndex.Url

inductive Host where
  /-- a domain or an opaque name; the empty name stands for no host -/
  | name (text : List Char)
  | ipv4 (address : Nat)
  | ipv6 (pieces : List Nat)
deriving DecidableEq, Repr

namespace Host

def text : Host → List Char
  | .name text => text
  | .ipv4 address => ipv4Text address
  | .ipv6 pieces => '[' :: ipv6Text pieces ++ [']']

def localName : List Char := "localhost".toList

/-- the host is this machine -/
def isLocal (host : Host) : Bool :=
  host = .name [] || host = .name localName

/-- an address between brackets, or nothing if there is no opening bracket -/
def bracketed? (text : List Char) : Option (Option Host) :=
  match text with
  | '[' :: rest =>
    some (if rest.getLast? = some ']' then (ipv6? rest.dropLast).map .ipv6 else none)
  | _ => none

/-- the host of a well-known scheme -/
def special? (text : List Char) : Option Host :=
  match bracketed? text with
  | some host => host
  | none => do
    let name ← Domain.toAscii? (← Utf8.decode? (percentDecode text))
    if name.isEmpty then none
    else if endsInNumber name then (ipv4? name).map .ipv4
    else return .name name

/-- the characters that an opaque name may not have -/
def forbiddenOpaque : List Char :=
  ['\x00', '\t', '\n', '\r', ' ', '#', '/', ':', '<', '>', '?', '@', '[', '\\', ']', '^', '|']

/-- the host of any other scheme, which is kept as written -/
def verbatim? (text : List Char) : Option Host :=
  match bracketed? text with
  | some host => host
  | none => if text.any forbiddenOpaque.contains then none else some (.name (encodeText keepsOpaque text))

end Host
end StyleIndex.Url
