import BalanceSheet.Decimal
import BalanceSheet.Text.Bytes

/-!
Network addresses with a port, written as text and read from it.
-/

namespace BalanceSheet

/-! ### Addresses

An address of the sixth version is written with its longest run of zero groups, if that has two or more, drawn
together to a double colon; one that stands for an address of the fourth version ends in the text of that. With a
port it is in square brackets.
-/

/-- An address of the fourth version. -/
structure Ipv4 where
  a : UInt8
  b : UInt8
  c : UInt8
  d : UInt8
  deriving DecidableEq

/-- An address of the sixth version: eight groups of sixteen bits. -/
structure Ipv6 where
  groups : List UInt16
  length_groups : groups.length = 8
  deriving DecidableEq

/-- An address and a port; one of the sixth version may name the link that it belongs to. -/
inductive SocketAddress where
  | v4 (ip : Ipv4) (port : UInt16)
  | v6 (ip : Ipv6) (scope : UInt32) (port : UInt16)
  deriving DecidableEq

namespace Ipv4

def text (ip : Ipv4) : String :=
  ".".intercalate ([ip.a, ip.b, ip.c, ip.d].map fun octet => toString octet.toNat)

/-- The address as two groups of sixteen bits. -/
def groups (ip : Ipv4) : List UInt16 :=
  [ip.a.toUInt16 * 256 + ip.b.toUInt16, ip.c.toUInt16 * 256 + ip.d.toUInt16]

def ofGroups (high low : UInt16) : Ipv4 :=
  ⟨(high / 256).toUInt8, high.toUInt8, (low / 256).toUInt8, low.toUInt8⟩

end Ipv4

namespace Ipv6

def groupText (g : UInt16) : String := String.ofList (Nat.toDigits 16 g.toNat)

def groupsText (gs : List UInt16) : String := ":".intercalate (gs.map groupText)

/-- How many zero groups there are from a place on. -/
def zerosFrom (gs : List UInt16) (start : Nat) : Nat := ((gs.drop start).takeWhile (· == 0)).length

/-- Where the first of the longest runs of zero groups starts, and its length. -/
def longestZeros (gs : List UInt16) : Nat × Nat :=
  (List.range gs.length).foldl
    (fun best start => if best.2 < zerosFrom gs start then (start, zerosFrom gs start) else best) (0, 0)

/-- The address of the fourth version that this one stands for. -/
def mapped? (ip : Ipv6) : Option Ipv4 :=
  match ip.groups with
  | [0, 0, 0, 0, 0, 0xffff, high, low] => some (.ofGroups high low)
  | _ => none

def text (ip : Ipv6) : String :=
  match ip.mapped? with
  | some v4 => "::ffff:" ++ v4.text
  | none =>
    let (start, length) := longestZeros ip.groups
    if 2 ≤ length then
      groupsText (ip.groups.take start) ++ "::" ++ groupsText (ip.groups.drop (start + length))
    else groupsText ip.groups

end Ipv6

def SocketAddress.text : SocketAddress → String
  | v4 ip port => ip.text ++ ":" ++ toString port.toNat
  | v6 ip scope port =>
    let link := if scope = 0 then "" else "%" ++ toString scope.toNat
    "[" ++ ip.text ++ link ++ "]:" ++ toString port.toNat

/-! ### Addresses read from text

The numbers of an address of the fourth version have no needless zero in front. In one of the sixth version a
double colon stands for one or more zero groups, and the last two groups may be written as an address of the
fourth version.
-/

namespace Net

def dropChar? (c : Char) : List Char → Option (List Char)
  | d :: rest => if c = d then some rest else none
  | [] => none

/-- A decimal number up to `most` at the start, and the rest. -/
def number? (most : Nat) (cs : List Char) : Option (Nat × List Char) := do
  let n ← Decimal.digits? (cs.takeWhile Char.isDigit)
  if n ≤ most then some (n, cs.dropWhile Char.isDigit) else none

def octet? (cs : List Char) : Option (UInt8 × List Char) := do
  let digits := cs.takeWhile Char.isDigit
  let (n, rest) ← number? 255 cs
  if digits.length ≤ 3 && (digits.length = 1 || digits.head? ≠ some '0') then some (n.toUInt8, rest) else none

def ipv4? (cs : List Char) : Option (Ipv4 × List Char) := do
  let (a, rest) ← octet? cs
  let (b, rest) ← octet? (← dropChar? '.' rest)
  let (c, rest) ← octet? (← dropChar? '.' rest)
  let (d, rest) ← octet? (← dropChar? '.' rest)
  return (⟨a, b, c, d⟩, rest)

/-- One to four hexadecimal digits at the start, and the rest. -/
def group? (cs : List Char) : Option (UInt16 × List Char) := do
  let digits := cs.takeWhile Text.isHex
  if digits.isEmpty || 4 < digits.length then none
  else some ((← Text.ofHex? digits).toUInt16, cs.dropWhile Text.isHex)

/-- As many groups as there are, `most` at most, and the rest. The colon before the first of them is left
out where `isFirst`. An address of the fourth version counts as two groups and ends them. -/
def groups : Nat → Bool → List Char → List UInt16 × Bool × List Char
  | 0, _, cs => ([], false, cs)
  | most + 1, isFirst, cs =>
    match if isFirst then some cs else dropChar? ':' cs with
    | none => ([], false, cs)
    | some start =>
      match if 1 ≤ most then ipv4? start else none with
      | some (ip, rest) => (ip.groups, true, rest)
      | none =>
        match group? start with
        | none => ([], false, cs)
        | some (g, rest) =>
          let (gs, endsInIpv4, rest) := groups most false rest
          (g :: gs, endsInIpv4, rest)

/-- The address with these groups, if they are eight. -/
def ipv6OfGroups? (gs : List UInt16) : Option Ipv6 :=
  if h : gs.length = 8 then some ⟨gs, h⟩ else none

def ipv6? (cs : List Char) : Option (Ipv6 × List Char) := do
  let (head, headEndsInIpv4, rest) := groups 8 true cs
  if head.length = 8 then return (← ipv6OfGroups? head, rest)
  else if headEndsInIpv4 then none
  else
    let inside ← dropChar? ':' (← dropChar? ':' rest)
    let (tail, _, rest) := groups (7 - head.length) true inside
    return (← ipv6OfGroups? (head ++ List.replicate (8 - head.length - tail.length) 0 ++ tail), rest)

/-- The link of an address, zero where none is named, and the rest. -/
def scope (cs : List Char) : Nat × List Char :=
  match (dropChar? '%' cs).bind (number? Decimal.maxUInt32) with
  | some (n, rest) => (n, rest)
  | none => (0, cs)

/-- A colon and a port at the end of the text. -/
def port? (cs : List Char) : Option UInt16 := do
  let (n, rest) ← number? Decimal.maxUInt16 (← dropChar? ':' cs)
  if rest.isEmpty then some n.toUInt16 else none

def socketAddressV4? (cs : List Char) : Option SocketAddress := do
  let (ip, rest) ← ipv4? cs
  return .v4 ip (← port? rest)

def socketAddressV6? (cs : List Char) : Option SocketAddress := do
  let (ip, rest) ← ipv6? (← dropChar? '[' cs)
  let (link, rest) := scope rest
  return .v6 ip link.toUInt32 (← port? (← dropChar? ']' rest))

end Net

/-- The address that a text writes. -/
def SocketAddress.parse? (s : String) : Option SocketAddress :=
  (Net.socketAddressV4? s.toList).or (Net.socketAddressV6? s.toList)

end BalanceSheet
