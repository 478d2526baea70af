import Concordance.Decimal.Unsigned

/-!
# Internet addresses

Addresses of both versions of the Internet protocol, alone and with a port, and the
texts they are written as. An address of version 6 is written in lower-case
hexadecimal groups, with its first longest run of two or more zero groups left out;
one that stands for an address of version 4 shows that address at its end. What is
read is wider: leading zeros in groups, a double colon in any place where it stands
for a zero group, and an address of version 4 in place of two groups.

* `SocketAddress.write`, `SocketAddress.read?`: an address with a port as text.
-/

namespace Concordance.Net

open Decimal (digits)

/-- An address of version 4, from its first byte to its last. -/
structure Ipv4 where
  bytes : Vector UInt8 4
  deriving DecidableEq

/-- An address of version 6, in eight groups. -/
structure Ipv6 where
  groups : Vector UInt16 8
  deriving DecidableEq

/-- An address of a machine together with a port. -/
inductive SocketAddress
  | v4 (ip : Ipv4) (port : UInt16)
  /-- The scope is zero unless the address is local to one of several networks. -/
  | v6 (ip : Ipv6) (scope : UInt32) (port : UInt16)
  deriving DecidableEq

/-! ## Writing -/

/-- Joins texts with a separator between them. -/
def separated (sep : Char) (texts : List (List Char)) : List Char :=
  [sep].intercalate texts

/-- Four bytes with points between them. -/
def Ipv4.write (ip : Ipv4) : List Char :=
  separated '.' (ip.bytes.toList.map fun b => digits b.toNat)

/-- Groups with colons between them. -/
def writeGroups (groups : List UInt16) : List Char :=
  separated ':' (groups.map fun g => Nat.toDigits 16 g.toNat)

/-- A run of zero groups. -/
structure ZeroRun where
  start : Nat
  length : Nat

/-- The first of the longest runs of zero groups. Before the group at `index` there
are `current` zero groups in a row, and `best` is the longest run so far. -/
def longestZeroRun (index current : Nat) (best : ZeroRun) : List UInt16 → ZeroRun
  | [] => best
  | g :: rest =>
    if g = 0 then
      let run := ⟨index - current, current + 1⟩
      longestZeroRun (index + 1) (current + 1) (if best.length < run.length then run else best) rest
    else longestZeroRun (index + 1) 0 best rest

/-- The address of version 4 that an address of version 6 stands for. -/
def Ipv6.mapped? (ip : Ipv6) : Option Ipv4 :=
  match ip.groups.toList with
  | [0, 0, 0, 0, 0, 0xffff, high, low] =>
    some ⟨#v[(high >>> 8).toUInt8, high.toUInt8, (low >>> 8).toUInt8, low.toUInt8]⟩
  | _ => none

/-- The text of an address of version 6. -/
def Ipv6.write (ip : Ipv6) : List Char :=
  match ip.mapped? with
  | some v4 => "::ffff:".toList ++ v4.write
  | none =>
    let groups := ip.groups.toList
    let zeros := longestZeroRun 0 0 ⟨0, 0⟩ groups
    if 1 < zeros.length then
      writeGroups (groups.take zeros.start) ++ [':', ':'] ++
        writeGroups (groups.drop (zeros.start + zeros.length))
    else writeGroups groups

/-- The text of the address without its port. -/
def SocketAddress.writeIp : SocketAddress → String
  | .v4 ip _ => String.ofList ip.write
  | .v6 ip _ _ => String.ofList ip.write

/-- The text of the address with its port. -/
def SocketAddress.write : SocketAddress → String
  | .v4 ip port => String.ofList (ip.write ++ ':' :: digits port.toNat)
  | .v6 ip scope port =>
    let zone := if scope = 0 then [] else '%' :: digits scope.toNat
    String.ofList ('[' :: (ip.write ++ zone ++ [']', ':'] ++ digits port.toNat))

/-! ## Reading -/

/-- The value of a digit in a base of up to sixteen. -/
def baseDigit? (base : Nat) (c : Char) : Option Nat :=
  let value :=
    if '0' ≤ c ∧ c ≤ '9' then some (c.toNat - '0'.toNat)
    else if 'a' ≤ c ∧ c ≤ 'f' then some (c.toNat - 'a'.toNat + 10)
    else if 'A' ≤ c ∧ c ≤ 'F' then some (c.toNat - 'A'.toNat + 10)
    else none
  value.filter (· < base)

/-- Reads the digits in front, as a number of at most `bound`. -/
def readNumber (base bound : Nat) (text : List Char) : Option (Nat × List Char) :=
  let isDigit := fun c => (baseDigit? base c).isSome
  let shown := text.takeWhile isDigit
  let value := shown.foldl (fun n c => base * n + (baseDigit? base c).getD 0) 0
  if shown.isEmpty || bound < value then none else some (value, text.dropWhile isDigit)

/-- Reads a number as `readNumber` does, from at most `width` digits. -/
def readShort (base bound width : Nat) (text : List Char) : Option (Nat × List Char) := do
  let (value, rest) ← readNumber base bound text
  guard (text.length - rest.length ≤ width)
  return (value, rest)

/-- Reads a byte in decimal, without leading zeros. -/
def readByte (text : List Char) : Option (UInt8 × List Char) := do
  let (value, rest) ← readShort 10 255 3 text
  guard (text.head? ≠ some '0' || text.length - rest.length = 1)
  return (UInt8.ofNat value, rest)

/-- Passes over the character `c`. -/
def expect (c : Char) : List Char → Option (List Char)
  | c' :: rest => if c' = c then some rest else none
  | [] => none

/-- Reads an address of version 4 in front. -/
def readIpv4 (text : List Char) : Option (Ipv4 × List Char) := do
  let (a, rest) ← readByte text
  let (b, rest) ← readByte (← expect '.' rest)
  let (c, rest) ← readByte (← expect '.' rest)
  let (d, rest) ← readByte (← expect '.' rest)
  return (⟨#v[a, b, c, d]⟩, rest)

/-- Groups that were read, whether the last two were written as an address of
version 4, and what is left of the text. -/
structure ReadGroups where
  groups : List UInt16
  endsInIpv4 : Bool
  rest : List Char

/-- Reads as many groups as there are, up to `room`. Unless they are the `first`, a
colon stands in front of them. -/
def readGroups (first : Bool) : Nat → List Char → ReadGroups
  | 0, text => ⟨[], false, text⟩
  | room + 1, text =>
    let body := if first then some text else expect ':' text
    match if room = 0 then none else body.bind readIpv4 with
    | some (ip, rest) =>
      let pair (i j : Fin 4) : UInt16 := ip.bytes[i].toUInt16 <<< 8 ||| ip.bytes[j].toUInt16
      ⟨[pair 0 1, pair 2 3], true, rest⟩
    | none =>
      match body.bind (readShort 16 0xffff 4) with
      | some (g, rest) =>
        let more := readGroups false room rest
        ⟨UInt16.ofNat g :: more.groups, more.endsInIpv4, more.rest⟩
      | none => ⟨[], false, text⟩

/-- The address of eight groups. -/
def Ipv6.ofGroups? (groups : List UInt16) : Option Ipv6 :=
  if h : groups.length = 8 then some ⟨⟨groups.toArray, by simpa using h⟩⟩ else none

/-- Reads an address of version 6 in front. -/
def readIpv6 (text : List Char) : Option (Ipv6 × List Char) := do
  let front := readGroups true 8 text
  if front.groups.length = 8 then
    return (← Ipv6.ofGroups? front.groups, front.rest)
  guard (!front.endsInIpv4)
  let rest ← expect ':' front.rest
  let rest ← expect ':' rest
  let back := readGroups true (7 - front.groups.length) rest
  let zeros := List.replicate (8 - front.groups.length - back.groups.length) 0
  return (← Ipv6.ofGroups? (front.groups ++ zeros ++ back.groups), back.rest)

/-- Reads a colon and a port. -/
def readPort (text : List Char) : Option (UInt16 × List Char) := do
  let (port, rest) ← readNumber 10 0xffff (← expect ':' text)
  return (UInt16.ofNat port, rest)

/-- Reads a percent sign and a scope; without them the scope is zero. -/
def readScope (text : List Char) : UInt32 × List Char :=
  match (expect '%' text).bind (readNumber 10 0xffffffff) with
  | some (scope, rest) => (UInt32.ofNat scope, rest)
  | none => (0, text)

/-- Reads an address of version 4 with a port. -/
def readSocketV4 (text : List Char) : Option (SocketAddress × List Char) := do
  let (ip, rest) ← readIpv4 text
  let (port, rest) ← readPort rest
  return (.v4 ip port, rest)

/-- Reads an address of version 6, in brackets, with a port. -/
def readSocketV6 (text : List Char) : Option (SocketAddress × List Char) := do
  let (ip, rest) ← readIpv6 (← expect '[' text)
  let (scope, rest) := readScope rest
  let (port, rest) ← readPort (← expect ']' rest)
  return (.v6 ip scope port, rest)

/-- The address with a port that a whole text writes. -/
def SocketAddress.read? (text : String) : Option SocketAddress :=
  match (readSocketV4 text.toList).orElse fun _ => readSocketV6 text.toList with
  | some (address, []) => some address
  | _ => none

end Concordance.Net
