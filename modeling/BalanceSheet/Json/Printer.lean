import BalanceSheet.Decimal
import BalanceSheet.Json.Basic
import BalanceSheet.Text.Bytes

/-!
The text of a JSON value. Strings escape the quotation mark, the backslash and the control characters
below the blank; nothing else is escaped. A float is written with the fewest digits that read back, in
positional form with a digit after the point from `0.00001` up to below `10 ^ 16`, and with a signed
exponent outside; the sign of zero is kept.
-/

namespace BalanceSheet.Json

/-- A character as it stands inside a string. -/
def escapeChar (c : Char) : List Char :=
  if c = '"' then ['\\', '"']
  else if c = '\\' then ['\\', '\\']
  else if c = '\n' then ['\\', 'n']
  else if c = '\r' then ['\\', 'r']
  else if c = '\t' then ['\\', 't']
  else if c = '\x08' then ['\\', 'b']
  else if c = '\x0c' then ['\\', 'f']
  else if c.toNat < 32 then ['\\', 'u', '0', '0', Text.hexDigit (c.toNat / 16), Text.hexDigit (c.toNat % 16)]
  else [c]

def quoted (s : String) : String := String.ofList ('"' :: s.toList.flatMap escapeChar ++ ['"'])

/-- The digits `ds` with a point after the first, unless there is only one. -/
def pointAfterFirst : List Char → List Char
  | [] => []
  | [d] => [d]
  | d :: ds => d :: '.' :: ds

def zeros (n : Nat) : List Char := List.replicate n '0'

/-- Digits and the power of ten of the first of them, written out. -/
def layout (ds : List Char) (power : Int) : List Char :=
  if -5 ≤ power && power ≤ 15 then
    if power < 0 then '0' :: '.' :: (zeros ((-power).toNat - 1) ++ ds)
    else
      let whole := power.toNat + 1
      if ds.length ≤ whole then ds ++ zeros (whole - ds.length) ++ ['.', '0']
      else ds.take whole ++ '.' :: ds.drop whole
  else
    let sign := if power < 0 then '-' else '+'
    pointAfterFirst ds ++ 'e' :: sign :: Nat.toDigits 10 power.natAbs

def floatText (x : Float) : String :=
  let decimal := Decimal.shortest x
  let ds := Nat.toDigits 10 decimal.digits
  let body := layout ds (decimal.exponent + ds.length - 1)
  String.ofList (if Decimal.isNegative x then '-' :: body else body)

/-- A float outside the finite range has no number text and is written as null. -/
def numberText : JsonNumber → String
  | .natural n => toString n
  | .negative n => toString n
  | .float x => if x.isFinite then floatText x else "null"

mutual

/-- The text without any blank. -/
def compact : Json → String
  | .null => "null"
  | .bool b => if b then "true" else "false"
  | .number n => numberText n
  | .string s => quoted s
  | .array items => "[" ++ ",".intercalate (compactItems items) ++ "]"
  | .members entries => "\x7b" ++ ",".intercalate (compactEntries entries) ++ "\x7d"

def compactItems : List Json → List String
  | [] => []
  | item :: rest => compact item :: compactItems rest

def compactEntries : List (String × Json) → List String
  | [] => []
  | (key, value) :: rest => (quoted key ++ ":" ++ compact value) :: compactEntries rest

end

def lineBreak (depth : Nat) : String := "\n" ++ String.ofList (List.replicate (2 * depth) ' ')

mutual

/-- The text with one item on a line, indented by two blanks per level; `depth` is the level reached. -/
def pretty (depth : Nat) : Json → String
  | .array (item :: rest) =>
    "[" ++ ",".intercalate (prettyItems (depth + 1) (item :: rest)) ++ lineBreak depth ++ "]"
  | .members (entry :: rest) =>
    "\x7b" ++ ",".intercalate (prettyEntries (depth + 1) (entry :: rest)) ++ lineBreak depth ++ "\x7d"
  | .array [] => "[]"
  | .members [] => "\x7b\x7d"
  | .null => "null"
  | .bool b => if b then "true" else "false"
  | .number n => numberText n
  | .string s => quoted s

def prettyItems (depth : Nat) : List Json → List String
  | [] => []
  | item :: rest => (lineBreak depth ++ pretty depth item) :: prettyItems depth rest

def prettyEntries (depth : Nat) : List (String × Json) → List String
  | [] => []
  | (key, value) :: rest =>
    (lineBreak depth ++ quoted key ++ ": " ++ pretty depth value) :: prettyEntries depth rest

end

end BalanceSheet.Json
