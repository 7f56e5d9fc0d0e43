import BalanceSheet.Calendar.Date
import BalanceSheet.Decimal
import BalanceSheet.Text.Bytes
import BalanceSheet.Toml.Basic

/-!
TOML documents read from text.
-/

namespace BalanceSheet.Toml

/-! ### Scalars

Numbers, truth values and moments of time in a TOML document. Each is a run of letters, digits and a few
signs, and is told by its shape as a whole. Underscores may stand between two digits of a number.
-/

/-- Characters that a scalar without quotes may have. -/
def isScalarChar (c : Char) : Bool := c.isAlphanum || c = '+' || c = '-' || c = '_' || c = '.' || c = ':'

/-- Digits of a kind with single underscores between them, which are left out of the result. -/
def separated? (isDigit : Char → Bool) : List Char → Option (List Char)
  | [] => none
  | [c] => if isDigit c then some [c] else none
  | c :: '_' :: rest => if isDigit c then (separated? isDigit rest).map (c :: ·) else none
  | c :: rest => if isDigit c then (separated? isDigit rest).map (c :: ·) else none

/-- A whole number in base two, eight or sixteen. -/
def based? (base : Nat) (isDigit : Char → Bool) (cs : List Char) : Option Int := do
  let n := (← separated? isDigit cs).foldl (fun n c => base * n + (Text.hexValue? c).getD 0) 0
  if n ≤ Decimal.maxInt64 then some n else none

/-- The digits of a decimal number, without needless zeros in front. -/
def decimalDigits? (cs : List Char) : Option (List Char) := do
  let ds ← separated? Char.isDigit cs
  if ds.length > 1 && ds.head? = some '0' then none else some ds

def splitSign : List Char → Bool × List Char
  | '-' :: cs => (true, cs)
  | '+' :: cs => (false, cs)
  | cs => (false, cs)

def integer? (cs : List Char) : Option Int :=
  match cs with
  | '0' :: 'x' :: digits => based? 16 Text.isHex digits
  | '0' :: 'o' :: digits => based? 8 (fun c => '0' ≤ c && c ≤ '7') digits
  | '0' :: 'b' :: digits => based? 2 (fun c => c = '0' || c = '1') digits
  | _ => do
    let (negative, digits) := splitSign cs
    let n := Decimal.ofDigits (← decimalDigits? digits)
    if negative then (if n ≤ Decimal.maxInt64 + 1 then some (-n) else none)
    else if n ≤ Decimal.maxInt64 then some n
    else none

/-- The exponent of a float, which takes the rest of the text after an `e`. -/
def floatExponent? (cs : List Char) : Option Int := do
  let (negative, digits) := splitSign cs
  let n : Int := Decimal.ofDigits (← separated? Char.isDigit digits)
  return if negative then -n else n

def isExponentMark (c : Char) : Bool := c = 'e' || c = 'E'

/-- A float with a fraction, an exponent or both; one past the finite range is refused if positive. -/
def float? (cs : List Char) : Option Float := do
  let (negative, body) := splitSign cs
  if body = "inf".toList then some (if negative then -1.0 / 0.0 else 1.0 / 0.0)
  else if body = "nan".toList then some (0.0 / 0.0)
  else
    let mantissa := body.takeWhile fun c => !isExponentMark c
    let exponent ← match body.drop mantissa.length with
      | [] => some none
      | _ :: digits => (floatExponent? digits).map some
    let whole ← decimalDigits? (mantissa.takeWhile fun c => c != '.')
    let fraction ← match mantissa.dropWhile fun c => c != '.' with
      | [] => some none
      | _ :: digits => (separated? Char.isDigit digits).map some
    if exponent.isNone && fraction.isNone then none
    else
      let ds := fraction.getD []
      let x := Decimal.nearest (Decimal.ofDigits (whole ++ ds)) (exponent.getD 0 - ds.length)
      if negative then some (-x) else if x.isFinite then some x else none

/-- Two digits within bounds, and the rest. -/
def twoDigits? (least most : Nat) : List Char → Option (Nat × List Char)
  | a :: b :: rest =>
    if a.isDigit && b.isDigit then
      let n := Decimal.ofDigits [a, b]
      if least ≤ n && n ≤ most then some (n, rest) else none
    else none
  | _ => none

def dropChar? (c : Char) : List Char → Option (List Char)
  | d :: rest => if c = d then some rest else none
  | [] => none

/-- A date at the start, and the rest. -/
def date? : List Char → Option (List Char)
  | a :: b :: c :: d :: rest => do
    let year ← Decimal.digits? [a, b, c, d]
    let (month, rest) ← twoDigits? 1 12 (← dropChar? '-' rest)
    let (_, rest) ← twoDigits? 1 (Calendar.monthLength year month) (← dropChar? '-' rest)
    some rest
  | _ => none

/-- A time of day at the start, and the rest; a minute may have a leap second. -/
def time? (cs : List Char) : Option (List Char) := do
  let (_, rest) ← twoDigits? 0 23 cs
  let (_, rest) ← twoDigits? 0 59 (← dropChar? ':' rest)
  let (_, rest) ← twoDigits? 0 60 (← dropChar? ':' rest)
  match rest with
  | '.' :: digits =>
    if (digits.head?.map Char.isDigit).getD false then some (digits.dropWhile Char.isDigit) else none
  | _ => some rest

/-- Whether the rest of a moment is its offset from universal time, or nothing. -/
def isOffset (cs : List Char) : Bool :=
  match cs with
  | [] | ['Z'] | ['z'] => true
  | sign :: rest =>
    (sign = '+' || sign = '-') && ((do
      let (_, rest) ← twoDigits? 0 23 rest
      let (_, rest) ← twoDigits? 0 59 (← dropChar? ':' rest)
      if rest.isEmpty then some () else none) : Option Unit).isSome

/-- Whether a text is a date, a time of day, or both with an optional offset. -/
def isMoment (cs : List Char) : Bool :=
  match date? cs with
  | some [] => true
  | some (mark :: rest) => (mark = 'T' || mark = 't' || mark = ' ') && ((time? rest).any isOffset)
  | none => time? cs = some []

/-- The value of a scalar without quotes. -/
def scalar? (cs : List Char) : Option Toml :=
  if cs = "true".toList then some (.bool true)
  else if cs = "false".toList then some (.bool false)
  else if isMoment cs then some (.moment (String.ofList cs))
  else ((float? cs).map .float).or ((integer? cs).map .integer)

/-- A scalar at the start, and the rest. A date and a time may have one blank between them. -/
def scalarToken (cs : List Char) : List Char × List Char :=
  let token := cs.takeWhile isScalarChar
  match cs.dropWhile isScalarChar with
  | ' ' :: c :: rest =>
    if date? token = some [] && c.isDigit then
      (token ++ ' ' :: (c :: rest).takeWhile isScalarChar, (c :: rest).dropWhile isScalarChar)
    else (token, ' ' :: c :: rest)
  | rest => (token, rest)

/-! ### Documents

Reading TOML documents: values, then lines. A line is empty, a header, or a key with a value, which goes
into the table of the last header. A document that gives a key twice, or opens a table twice, is refused.
-/

/-- Blanks, line breaks and comments between the items of an array. -/
def skipBetween : Nat → List Char → Option (List Char)
  | 0, _ => none
  | fuel + 1, cs =>
    let rest := skipInlineBlank cs
    match rest with
    | '#' :: _ =>
      match skipComment rest with
      | [] => some []
      | after => (dropLineBreak? after).bind (skipBetween fuel)
    | _ =>
      match dropLineBreak? rest with
      | some after => skipBetween fuel after
      | none => some rest

mutual

/-- A value at the start, with room for `depth` open brackets, and the rest. -/
def value? : Nat → Nat → List Char → Option (Toml × List Char)
  | 0, _, _ => none
  | fuel + 1, depth, cs =>
    match cs with
    | '"' :: _ | '\'' :: _ => (string? cs).map fun (body, rest) => (.string (String.ofList body), rest)
    | '[' :: rest =>
      if depth = 0 then none
      else (items? fuel (depth - 1) rest).map fun (items, rest) => (.array items, rest)
    | '{' :: rest =>
      if depth = 0 then none
      else
        match skipInlineBlank rest with
        | '}' :: after => some (.table .inline [], after)
        | inside =>
          (entries? fuel (depth - 1) [] inside).map fun (entries, rest) => (.table .inline entries, rest)
    | _ =>
      let (token, rest) := scalarToken cs
      (scalar? token).map fun value => (value, rest)

/-- The items of an array up to its closing bracket; the last may have a comma behind it. -/
def items? : Nat → Nat → List Char → Option (List Toml × List Char)
  | 0, _, _ => none
  | fuel + 1, depth, cs => do
    match ← skipBetween (cs.length + 1) cs with
    | ']' :: rest => some ([], rest)
    | start =>
      let (item, rest) ← value? fuel depth start
      match ← skipBetween (rest.length + 1) rest with
      | ',' :: more =>
        let (items, after) ← items? fuel depth more
        some (item :: items, after)
      | ']' :: after => some ([item], after)
      | _ => none

/-- The entries of an inline table up to its closing brace, after those in `done`. -/
def entries? : Nat → Nat → Entries → List Char → Option (Entries × List Char)
  | 0, _, _, _ => none
  | fuel + 1, depth, done, cs => do
    let ((path, key), rest) ← key? maxDepth cs
    let afterSign ← dropChar? '=' rest
    let (value, rest) ← value? fuel depth (skipInlineBlank afterSign)
    let entries ← insert key value path done
    match skipInlineBlank rest with
    | '}' :: after => some (entries, after)
    | ',' :: more => entries? fuel depth entries more
    | _ => none

end

/-- A value that takes the rest of its line or lines. -/
def lineValue? (cs : List Char) : Option (Toml × List Char) := do
  let start := skipInlineBlank cs
  let (value, rest) ← value? (2 * start.length + 2) (maxDepth - 1) start
  some (value, ← endLine? rest)

/-- The key of a header, from after its opening brackets, and the text after its line. -/
def header? (closing : List Char) (cs : List Char) : Option ((List String × String) × List Char) := do
  let (key, rest) ← key? maxDepth cs
  if closing.isPrefixOf rest then some (key, ← endLine? (rest.drop closing.length)) else none

/-- Reads lines into the document; `current` is the path of the last header. -/
def lines : Nat → List String → Entries → List Char → Option Entries
  | 0, _, _, _ => none
  | fuel + 1, current, root, cs =>
    match skipInlineBlank cs with
    | [] => some root
    | '[' :: '[' :: rest => do
      let ((path, key), after) ← header? [']', ']'] rest
      lines fuel (path ++ [key]) (← updateAt (openTables key) path root) after
    | '[' :: rest => do
      let ((path, key), after) ← header? [']'] rest
      lines fuel (path ++ [key]) (← updateAt (openTable key) path root) after
    | start =>
      match endLine? start with
      | some after => lines fuel current root after
      | none => do
        let ((path, key), rest) ← key? maxDepth start
        let (value, after) ← lineValue? (← dropChar? '=' rest)
        lines fuel current (← updateAt (insert key value path) current root) after

/-- The document that a text writes; a byte order mark in front is skipped. -/
def parse? (s : String) : Option Toml := do
  let cs := match s.toList with
    | '\ufeff' :: rest => rest
    | cs => cs
  return .table .header (← lines (cs.length + 2) [] [] cs)

end BalanceSheet.Toml
