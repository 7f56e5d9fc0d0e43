import BalanceSheet.Text.Basic
import BalanceSheet.Text.Bytes

/-!
Addresses on the web in their parts, and the escapes and forms in which a part carries other text.
-/

namespace BalanceSheet

/-! ### Escapes

An escape is a percent sign and two hexadecimal digits, one for each byte of a character. A percent sign
that two digits do not follow stands for itself.
-/

namespace Percent

def escapeByte (b : UInt8) : List Char :=
  ['%', Text.upperHexDigit (b.toNat / 16), Text.upperHexDigit (b.toNat % 16)]

def escapeChar (c : Char) : List Char := (String.utf8EncodeChar c).flatMap escapeByte

/-- The text with all characters escaped but those that are kept. -/
def escape (isKept : Char → Bool) (cs : List Char) : List Char :=
  cs.flatMap fun c => if isKept c then [c] else escapeChar c

def hexByte? (b : UInt8) : Option Nat := Text.hexValue? (Char.ofNat b.toNat)

/-- The bytes with their escapes read. -/
def unescape : List UInt8 → List UInt8
  | 0x25 :: a :: b :: rest =>
    match hexByte? a, hexByte? b with
    | some high, some low => (16 * high + low).toUInt8 :: unescape rest
    | _, _ => 0x25 :: unescape (a :: b :: rest)
  | b :: rest => b :: unescape rest
  | [] => []

/-- The bytes that a text with escapes stands for. -/
def bytes (cs : List Char) : List UInt8 := unescape (Utf8.encode cs)

end Percent

/-! ### Names with values

The query of an address carries names with values. Each pair is a name and a value with an equals
sign between, and ampersands stand between the pairs. A blank is written as a plus sign; letters, digits
and four signs stand for themselves, and all else is escaped.
-/

namespace Form

def isKept (c : Char) : Bool := c.isAlphanum || c = '*' || c = '-' || c = '.' || c = '_'

def encodeChar (c : Char) : List Char :=
  if c = ' ' then ['+'] else if isKept c then [c] else Percent.escapeChar c

def encode (s : String) : List Char := s.toList.flatMap encodeChar

def encodePair (pair : String × String) : List Char := encode pair.1 ++ '=' :: encode pair.2

/-- The pairs in their order. -/
def encodePairs (pairs : List (String × String)) : List Char := ['&'].intercalate (pairs.map encodePair)

def plusToBlank (c : Char) : Char := if c = '+' then ' ' else c

def decode (cs : List Char) : String := String.ofList (Utf8.decode (Percent.bytes (cs.map plusToBlank)))

/-- The pair of one part; without an equals sign the value is empty. -/
def decodePair (cs : List Char) : String × String :=
  match Text.cut '=' cs with
  | some (name, value) => (decode name, decode value)
  | none => (decode cs, "")

/-- The pairs of a query in their order; empty parts are no pairs. -/
def decodePairs (cs : List Char) : List (String × String) :=
  ((cs.splitOn '&').filter fun part => !part.isEmpty).map decodePair

end Form

/-! ### Addresses

Addresses on the web, in the parts that a request is made of; the part after a number sign is none of
them.
-/

structure Url where
  scheme : String
  username : String
  password : Option String
  host : Option String
  port : Option Nat
  path : String
  query : Option String
  deriving DecidableEq

namespace Url

/-- Whether a request can be sent to an address. -/
def takesRequests (u : Url) : Bool := u.scheme = "http" || u.scheme = "https"

/-- The address with pairs added to its query. -/
def addPairs (u : Url) (pairs : List (String × String)) : Url :=
  let added := String.ofList (Form.encodePairs pairs)
  let query := match u.query with
    | none | some "" => added
    | some before => before ++ "&" ++ added
  { u with query := some query }

/-- What a request asks for: the path and the query. -/
def target (u : Url) : String :=
  match u.query with
  | none => u.path
  | some query => u.path ++ "?" ++ query

end Url

end BalanceSheet
