import LoginRehearsal.Text.Numeral
import LoginRehearsal.Text.Split

/-!
# Internet addresses

IPv4 and IPv6 addresses, their canonical text, and the strict reader that settings go through: four
decimal octets without leading zeros, or eight groups of hexadecimal digits, of which one run of zero
groups may be written `::` and the last two as an IPv4 address.

* `Ipv4.text`, `Ipv6.text`, `IpAddress.text`: canonical text.
* `IpAddress.ofText?`: the strict reader.
* `Endpoint.text`: an address with a port.
-/
namespace LoginRehearsal

/-- An IPv4 address by its four octets. -/
structure Ipv4 where
  a : Nat
  b : Nat
  c : Nat
  d : Nat
deriving DecidableEq, Repr

/-- An IPv6 address by its eight groups of sixteen bits. -/
structure Ipv6 where
  groups : List Nat
deriving DecidableEq, Repr

/-- An address of either family. -/
inductive IpAddress where
  | v4 (address : Ipv4)
  | v6 (address : Ipv6)
deriving DecidableEq, Repr

/-! ## Canonical text -/

def Ipv4.text (ip : Ipv4) : String :=
  decimal ip.a ++ "." ++ decimal ip.b ++ "." ++ decimal ip.c ++ "." ++ decimal ip.d

/-- The lower-case hexadecimal numeral of a number. -/
def hexadecimal (n : Nat) : String := String.ofList (Nat.toDigits 16 n)

/-- How many zero groups stand at the front. -/
def leadingZeros (groups : List Nat) : Nat := (groups.takeWhile (· == 0)).length

/-- The longest run of zero groups, as its start and length; the first of equally long ones. `start`
counts the groups before the list. -/
def longestZeroRun (start : Nat) : List Nat → Nat × Nat
  | [] => (start, 0)
  | group :: rest =>
    let later := longestZeroRun (start + 1) rest
    let here := leadingZeros (group :: rest)
    if later.2 ≤ here then (start, here) else later

/-- Groups in hexadecimal, joined by colons. -/
def colonGroups (groups : List Nat) : String := ":".intercalate (groups.map hexadecimal)

/-- The groups of an address, with its longest run of two or more zero groups written `::`. -/
def Ipv6.compressed (ip : Ipv6) : String :=
  let (start, length) := longestZeroRun 0 ip.groups
  if length ≤ 1 then colonGroups ip.groups
  else colonGroups (ip.groups.take start) ++ "::" ++ colonGroups (ip.groups.drop (start + length))

/-- The IPv4 address that an address of the block `::ffff:0:0/96` stands for. -/
def Ipv6.mapped? (ip : Ipv6) : Option Ipv4 :=
  match ip.groups with
  | [0, 0, 0, 0, 0, 0xFFFF, g, h] => some ⟨g / 256, g % 256, h / 256, h % 256⟩
  | _ => none

def Ipv6.text (ip : Ipv6) : String :=
  match ip.mapped? with
  | some v4 => "::ffff:" ++ v4.text
  | none => ip.compressed

def IpAddress.text : IpAddress → String
  | .v4 ip => ip.text
  | .v6 ip => ip.text

/-- An address in front of a port, where IPv6 takes brackets. -/
def IpAddress.hostText : IpAddress → String
  | .v4 ip => ip.text
  | .v6 ip => "[" ++ ip.text ++ "]"

/-! ## The strict reader -/

/-- A decimal octet of one to three digits, without leading zeros. -/
def octet? (cs : List Char) : Option Nat :=
  match cs with
  | [] => none
  | ['0'] => some 0
  | '0' :: _ => none
  | _ => (Numeral.readDigits 255 .tooLarge 0 cs).toOption

def Ipv4.ofChars? (cs : List Char) : Option Ipv4 :=
  match (LoginRehearsal.splitOn (· == '.') cs).map octet? with
  | [some a, some b, some c, some d] => some ⟨a, b, c, d⟩
  | _ => none

/-- A group of one to four hexadecimal digits. -/
def hexGroup? (cs : List Char) : Option Nat :=
  if cs.isEmpty || 4 < cs.length then none
  else (cs.mapM hexDigitValue?).map (·.foldl (fun value d => value * 16 + d) 0)

/-- The groups that the pieces between colons spell; the last piece may be an IPv4 address. -/
def groupsOf? : List (List Char) → Option (List Nat)
  | [] => some []
  | [last] =>
    match hexGroup? last with
    | some g => some [g]
    | none => (Ipv4.ofChars? last).map fun ip => [ip.a * 256 + ip.b, ip.c * 256 + ip.d]
  | piece :: pieces => do
    let g ← hexGroup? piece
    let gs ← groupsOf? pieces
    pure (g :: gs)

/-- The text before the first `::` and behind it, if there is one. -/
def splitDoubleColon (before : List Char) : List Char → Option (List Char × List Char)
  | ':' :: ':' :: rest => some (before.reverse, rest)
  | c :: rest => splitDoubleColon (c :: before) rest
  | [] => none

/-- The groups of one side of a `::`, none for an empty side. -/
def sideGroups? (cs : List Char) : Option (List Nat) :=
  if cs.isEmpty then some [] else groupsOf? (LoginRehearsal.splitOn (· == ':') cs)

def Ipv6.ofChars? (cs : List Char) : Option Ipv6 :=
  match splitDoubleColon [] cs with
  | none => do
    let groups ← groupsOf? (LoginRehearsal.splitOn (· == ':') cs)
    if groups.length = 8 then some ⟨groups⟩ else none
  | some (front, back) => do
    let before ← if front.contains '.' then none else sideGroups? front
    let behind ← sideGroups? back
    if before.length + behind.length < 8 then
      some ⟨before ++ List.replicate (8 - before.length - behind.length) 0 ++ behind⟩
    else none

/-- The address that a text spells, in either family. -/
def IpAddress.ofText? (s : String) : Option IpAddress :=
  match Ipv4.ofChars? s.toList with
  | some ip => some (.v4 ip)
  | none => (Ipv6.ofChars? s.toList).map .v6

/-! ## Endpoints -/

/-- An address and a port. -/
structure Endpoint where
  address : IpAddress
  port : Nat
deriving DecidableEq, Repr

/-- An endpoint, with its port spelled by `portText`. -/
def Endpoint.textWith (portText : Nat → String) (e : Endpoint) : String :=
  e.address.hostText ++ ":" ++ portText e.port

def Endpoint.text (e : Endpoint) : String := e.textWith decimal

end LoginRehearsal
