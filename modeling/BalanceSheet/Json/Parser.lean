import BalanceSheet.Decimal
import BalanceSheet.Json.Basic
import BalanceSheet.Text.Bytes

/-!
Reading JSON. A natural number of 64 bits and a negative integer of 64 bits are kept as such; any other
number is a float: as many of its digits as fit 64 bits are taken for a whole number, which is then scaled
by the power of ten that remains, and a number past the finite range is refused. Arrays and objects nest
at most 127 deep, and of the members of an object with one key the last counts.
-/

namespace BalanceSheet.Json

def isSpace (c : Char) : Bool := c = ' ' || c = '\t' || c = '\n' || c = '\r'

def skipSpace (cs : List Char) : List Char := cs.dropWhile isSpace

def unit? (a b c d : Char) : Option Nat := Text.ofHex? [a, b, c, d]

def escape? : Char → Option Char
  | '"' => some '"'
  | '\\' => some '\\'
  | '/' => some '/'
  | 'b' => some '\x08'
  | 'f' => some '\x0c'
  | 'n' => some '\n'
  | 'r' => some '\r'
  | 't' => some '\t'
  | _ => none

/-- The characters of a string up to its closing mark, and the text after that. Of surrogates only a
pair, first half first, is a character. -/
def stringBody? : List Char → Option (List Char × List Char)
  | [] => none
  | '"' :: rest => some ([], rest)
  | '\\' :: 'u' :: a :: b :: c :: d :: '\\' :: 'u' :: e :: f :: g :: h :: rest =>
    match unit? a b c d, unit? e f g h with
    | some high, some low =>
      if 0xd800 ≤ high && high < 0xdc00 then
        if 0xdc00 ≤ low && low < 0xe000 then
          (stringBody? rest).map fun (body, after) =>
            (Char.ofNat (0x10000 + (high - 0xd800) * 0x400 + (low - 0xdc00)) :: body, after)
        else none
      else if 0xdc00 ≤ high && high < 0xe000 then none
      else
        (stringBody? ('\\' :: 'u' :: e :: f :: g :: h :: rest)).map fun (body, after) =>
          (Char.ofNat high :: body, after)
    | _, _ => none
  | '\\' :: 'u' :: a :: b :: c :: d :: rest =>
    match unit? a b c d with
    | some n =>
      if 0xd800 ≤ n && n < 0xe000 then none
      else (stringBody? rest).map fun (body, after) => (Char.ofNat n :: body, after)
    | none => none
  | '\\' :: e :: rest =>
    match escape? e with
    | some c => (stringBody? rest).map fun (body, after) => (c :: body, after)
    | none => none
  | c :: rest =>
    if c.toNat < 32 then none else (stringBody? rest).map fun (body, after) => (c :: body, after)

/-- Takes digits onto `n` while the number fits 64 bits; also how many were taken. -/
def absorb (n : Nat) : List Char → Nat × Nat
  | [] => (n, 0)
  | d :: ds =>
    let next := 10 * n + (d.toNat - '0'.toNat)
    if next ≤ Decimal.maxUInt64 then
      let (m, taken) := absorb next ds
      (m, taken + 1)
    else (n, 0)

def powerOfTen (k : Nat) : Float := Float.ofScientific 1 false k

/-- Divides by `10 ^ e`, in steps of at most `10 ^ 308`; after three steps nothing is left. -/
def scaleDown : Nat → Float → Nat → Float
  | 0, _, _ => 0.0
  | steps + 1, x, e =>
    if e ≤ 308 then x / powerOfTen e else scaleDown steps (x / powerOfTen 308) (e - 308)

/-- The float `n * 10 ^ e`, unless it is past the finite range. -/
def scaled? (n : Nat) (e : Int) : Option Float :=
  if e < 0 then some (scaleDown 4 (Float.ofNat n) (-e).toNat)
  else if n = 0 then some 0.0
  else if e > 308 then none
  else
    let x := Float.ofNat n * powerOfTen e.toNat
    if x.isFinite then some x else none

/-- Digits after a point, at least one; none where there is no point. -/
def fraction? : List Char → Option (List Char × List Char)
  | '.' :: rest =>
    let ds := rest.takeWhile Char.isDigit
    if ds.isEmpty then none else some (ds, rest.dropWhile Char.isDigit)
  | rest => some ([], rest)

def signedDigits? (negative : Bool) (cs : List Char) : Option (Option Int × List Char) :=
  let ds := cs.takeWhile Char.isDigit
  if ds.isEmpty then none
  else
    let n : Int := Decimal.ofDigits ds
    some (some (if negative then -n else n), cs.dropWhile Char.isDigit)

/-- The exponent after an `e`; none where there is no `e`. -/
def exponent? : List Char → Option (Option Int × List Char)
  | [] => some (none, [])
  | c :: rest =>
    if c = 'e' || c = 'E' then
      match rest with
      | '-' :: ds => signedDigits? true ds
      | '+' :: ds => signedDigits? false ds
      | ds => signedDigits? false ds
    else some (none, c :: rest)

def wholeNumber (negative : Bool) (n : Nat) : JsonNumber :=
  if !negative then .natural n
  else if n = 0 || n > Decimal.maxInt64 + 1 then .float (-(Float.ofNat n))
  else .negative (-n)

def number? (negative : Bool) (cs : List Char) : Option (JsonNumber × List Char) := do
  let whole := cs.takeWhile Char.isDigit
  if whole.isEmpty || (whole.head? = some '0' && whole.length > 1) then none
  else
    let (fraction, afterPoint) ← fraction? (cs.dropWhile Char.isDigit)
    let (exponent, rest) ← exponent? afterPoint
    let (n, taken) := absorb 0 whole
    if fraction.isEmpty && exponent.isNone && taken = whole.length then some (wholeNumber negative n, rest)
    else
      let (m, takenAfter) := absorb n fraction
      let x ← scaled? m ((whole.length - taken : Nat) - (takenAfter : Int) + exponent.getD 0)
      some (.float (if negative then -x else x), rest)

def dropWord? (word : String) (cs : List Char) : Option (List Char) := Text.dropStart? word.toList cs

mutual

/-- A value that starts at the first character, with room for `depth` open brackets; `fuel` bounds the
number of calls. -/
def value? : Nat → Nat → List Char → Option (Json × List Char)
  | 0, _, _ => none
  | fuel + 1, depth, cs =>
    match cs with
    | 'n' :: _ => (dropWord? "null" cs).map fun rest => (.null, rest)
    | 't' :: _ => (dropWord? "true" cs).map fun rest => (.bool true, rest)
    | 'f' :: _ => (dropWord? "false" cs).map fun rest => (.bool false, rest)
    | '"' :: rest => (stringBody? rest).map fun (body, after) => (.string (String.ofList body), after)
    | '-' :: rest => (number? true rest).map fun (n, after) => (.number n, after)
    | '[' :: rest =>
      if depth = 0 then none
      else
        match skipSpace rest with
        | ']' :: after => some (.array [], after)
        | inside => (items? fuel (depth - 1) inside).map fun (items, after) => (.array items, after)
    | '{' :: rest =>
      if depth = 0 then none
      else
        match skipSpace rest with
        | '}' :: after => some (.members [], after)
        | inside => (entries? fuel (depth - 1) inside).map fun (entries, after) => (.object entries, after)
    | _ => (number? false cs).map fun (n, after) => (.number n, after)

/-- Items up to the closing bracket. -/
def items? : Nat → Nat → List Char → Option (List Json × List Char)
  | 0, _, _ => none
  | fuel + 1, depth, cs => do
    let (item, rest) ← value? fuel depth cs
    match skipSpace rest with
    | ']' :: after => some ([item], after)
    | ',' :: more =>
      let (items, after) ← items? fuel depth (skipSpace more)
      some (item :: items, after)
    | _ => none

/-- Members up to the closing brace. -/
def entries? : Nat → Nat → List Char → Option (List (String × Json) × List Char)
  | 0, _, _ => none
  | fuel + 1, depth, cs => do
    match cs with
    | '"' :: inside =>
      let (key, afterKey) ← stringBody? inside
      match skipSpace afterKey with
      | ':' :: afterColon =>
        let (value, rest) ← value? fuel depth (skipSpace afterColon)
        match skipSpace rest with
        | '}' :: after => some ([(String.ofList key, value)], after)
        | ',' :: more =>
          let (entries, after) ← entries? fuel depth (skipSpace more)
          some ((String.ofList key, value) :: entries, after)
        | _ => none
      | _ => none
    | _ => none

end

/-- The value that a text writes, with nothing but blanks around it. -/
def ofChars? (cs : List Char) : Option Json := do
  let (value, rest) ← value? (2 * cs.length + 2) 127 (skipSpace cs)
  if (skipSpace rest).isEmpty then some value else none

def parse? (s : String) : Option Json := ofChars? s.toList

end BalanceSheet.Json
