import LoginRehearsal.Net.Address
import LoginRehearsal.Text.Percent
import LoginRehearsal.Web.Domain

/-!
# Hosts of web addresses

The host part of a URL, as browsers read it. In a URL of one of the special schemes it is a domain name,
brought to its ASCII form, or an IP address; in any other URL it is opaque text or an IPv6 address.

* `Host.parse`: the host of a special URL.
* `Host.parseOpaque`: the host of another URL.
* `Host.text`: the text of a host in a serialized URL.
-/
namespace LoginRehearsal

/-- Why a text is no URL. -/
inductive UrlError where
  | relativeWithoutBase
  | emptyHost
  | invalidPort
  | invalidIpv4
  | invalidIpv6
  | invalidDomain
  | invalidDomainCharacter
deriving DecidableEq, Repr

/-- The wording of an error. -/
def UrlError.message : UrlError → String
  | .relativeWithoutBase => "relative URL without a base"
  | .emptyHost => "empty host"
  | .invalidPort => "invalid port number"
  | .invalidIpv4 => "invalid IPv4 address"
  | .invalidIpv6 => "invalid IPv6 address"
  | .invalidDomain => "invalid international domain name"
  | .invalidDomainCharacter => "invalid domain character"

/-- A host. The empty name stands for no host. -/
inductive Host where
  | name (text : String)
  | ipv4 (address : Ipv4)
  | ipv6 (address : Ipv6)
deriving DecidableEq, Repr

namespace Host

/-- The host as it stands in a serialized URL. -/
def text : Host → String
  | .name s => s
  | .ipv4 ip => ip.text
  | .ipv6 ip => "[" ++ ip.compressed ++ "]"

/-! ## IPv4 addresses -/

/-- A number of an IPv4 address: hexadecimal behind `0x`, octal behind another `0`, else decimal. -/
inductive Ipv4Number where
  | value (n : Nat)
  | tooLarge
deriving DecidableEq, Repr

/-- Reads digits of a base, if all are digits of it. -/
def numberIn (base : Nat) (cs : List Char) : Option Ipv4Number := do
  let digits ← cs.mapM fun c => (hexDigitValue? c).filter (· < base)
  let n := digits.foldl (fun value d => value * base + d) 0
  pure (if n ≤ Numeral.maxU32 then .value n else .tooLarge)

/-- The number that a part of an IPv4 address spells. -/
def ipv4Number? : List Char → Option Ipv4Number
  | [] => none
  | '0' :: 'x' :: digits => numberIn 16 digits
  | '0' :: 'X' :: digits => numberIn 16 digits
  | '0' :: d :: digits => numberIn 8 (d :: digits)
  | digits => numberIn 10 digits

/-- The parts of a dotted name, without an empty one at the end. -/
def dottedParts (cs : List Char) : List (List Char) :=
  let parts := splitOn (· == '.') cs
  if 1 < parts.length ∧ parts.getLast? = some [] then parts.dropLast else parts

/-- Whether the last part of a name is a number, so that the name is to be an IPv4 address. -/
def endsInNumber (cs : List Char) : Bool :=
  match (dottedParts cs).getLast? with
  | none => false
  | some last => (!last.isEmpty && last.all Char.isDigit) || (ipv4Number? last).isSome

/-- The address that parts with these values form: the last one fills the octets left over. -/
def ipv4OfNumbers? (numbers : List Nat) : Option Ipv4 :=
  match numbers.getLast? with
  | none => none
  | some last =>
    let front := numbers.dropLast
    if 3 < front.length ∨ front.any (255 < ·) ∨ Nat.pow 256 (4 - front.length) ≤ last then none
    else
      let value := front.zipIdx.foldl (fun sum (n, i) => sum + n * Nat.pow 256 (3 - i)) last
      some ⟨value / 16777216, value / 65536 % 256, value / 256 % 256, value % 256⟩

/-- The IPv4 address that a name spells. -/
def parseIpv4 (cs : List Char) : Except UrlError Ipv4 :=
  let numbers := (dottedParts cs).mapM fun part =>
    match ipv4Number? part with
    | some (.value n) => some n
    | _ => none
  match numbers.bind ipv4OfNumbers? with
  | some ip => .ok ip
  | none => .error .invalidIpv4

/-! ## IPv6 addresses -/

/-- A decimal octet inside an IPv6 address, without leading zeros. -/
def innerIpv4? (cs : List Char) : Option (List Nat) :=
  match (splitOn (· == '.') cs).map octet? with
  | [some a, some b, some c, some d] => some [a * 256 + b, c * 256 + d]
  | _ => none

/-- The groups that the pieces between colons spell; the last piece may be an IPv4 address. -/
def ipv6Groups? : List (List Char) → Option (List Nat)
  | [] => some []
  | [last] =>
    match hexGroup? last with
    | some g => some [g]
    | none => innerIpv4? last
  | piece :: pieces => do
    let g ← hexGroup? piece
    let gs ← ipv6Groups? pieces
    pure (g :: gs)

/-- The groups of one side of a `::`. -/
def ipv6Side? (cs : List Char) : Option (List Nat) :=
  if cs.isEmpty then some [] else ipv6Groups? (splitOn (· == ':') cs)

/-- The IPv6 address between brackets. -/
def parseIpv6 (cs : List Char) : Except UrlError Host :=
  let groups? := match splitDoubleColon [] cs with
    | none => (ipv6Groups? (splitOn (· == ':') cs)).filter (·.length == 8)
    | some (front, back) => do
      let before ← if front.contains '.' then none else ipv6Side? front
      let behind ← ipv6Side? back
      if before.length + behind.length < 8 then
        some (before ++ List.replicate (8 - before.length - behind.length) 0 ++ behind)
      else none
  match groups? with
  | some groups => .ok (.ipv6 ⟨groups⟩)
  | none => .error .invalidIpv6

/-! ## Hosts -/

/-- A host in brackets. -/
def parseBracketed (rest : List Char) : Except UrlError Host :=
  if rest.getLast? = some ']' then parseIpv6 rest.dropLast else .error .invalidIpv6

/-- The host of a special URL. -/
def parse (cs : List Char) : Except UrlError Host :=
  match cs with
  | '[' :: rest => parseBracketed rest
  | _ =>
    match Percent.decode? cs with
    | .error _ => .error .invalidDomain
    | .ok decoded =>
      match Domain.toAscii? decoded.toList with
      | none => .error .invalidDomain
      | some [] => .error .emptyHost
      | some ascii =>
        if endsInNumber ascii then (parseIpv4 ascii).map .ipv4
        else .ok (.name (String.ofList ascii))

/-- ASCII characters that no opaque host holds. -/
def isForbiddenInHost (c : Char) : Bool :=
  "\x00\t\n\r #/:<>?@[\\]^|".toList.contains c

/-- The bytes that stand for themselves in an opaque host: printable ASCII. -/
def isPrintable (b : UInt8) : Bool := 0x20 ≤ b.toNat && b.toNat < 0x7F

/-- The host of a URL that is not special. -/
def parseOpaque (cs : List Char) : Except UrlError Host :=
  match cs with
  | '[' :: rest => parseBracketed rest
  | _ =>
    if cs.any isForbiddenInHost then .error .invalidDomainCharacter
    else .ok (.name (String.ofList (Percent.encodeChars isPrintable cs)))

end Host
end LoginRehearsal
