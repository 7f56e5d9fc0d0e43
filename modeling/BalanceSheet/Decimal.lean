import BalanceSheet.Text.Basic

/-!
Decimal numbers, read from text and written as text.
-/

namespace BalanceSheet.Decimal

/-! ### Numbers read from text

A whole number is an optional sign and decimal digits within the bounds of its type. A real number is an optional
sign and decimal digits with at most one point and an exponent, or one of the words for infinity and not-a-number
in any letter case; no blank and no separator is allowed.
-/

/-- The number that a list of decimal digits writes. -/
def ofDigits (cs : List Char) : Nat := cs.foldl (fun n c => 10 * n + (c.toNat - '0'.toNat)) 0

/-- Digits alone, at least one. -/
def digits? (cs : List Char) : Option Nat :=
  if cs.isEmpty || !cs.all Char.isDigit then none else some (ofDigits cs)

/-- A whole number from zero to `most`, with an optional plus sign. -/
def unsigned? (most : Nat) (s : String) : Option Nat := do
  let n ← digits? (match s.toList with | '+' :: cs => cs | cs => cs)
  if n ≤ most then some n else none

/-- A whole number from `-(most + 1)` to `most`, with an optional sign. -/
def signed? (most : Nat) (s : String) : Option Int := do
  match s.toList with
  | '-' :: cs =>
    let n ← digits? cs
    if n ≤ most + 1 then some (-n) else none
  | cs =>
    let n ← digits? (match cs with | '+' :: rest => rest | rest => rest)
    if n ≤ most then some n else none

def maxUInt16 : Nat := 65535
def maxUInt32 : Nat := 4294967295
def maxInt64 : Nat := 9223372036854775807
def maxUInt64 : Nat := 18446744073709551615

/-- What the text of a real number says, before it is rounded to a machine number. -/
inductive Literal where
  | nan
  | infinity (negative : Bool)
  /-- The number `mantissa * 10 ^ exponent`, negated where `negative`. -/
  | finite (negative : Bool) (mantissa : Nat) (exponent : Int)

/-- The exponent part of a number, which may be absent and takes the rest of the text. -/
def exponent? : List Char → Option Int
  | [] => some 0
  | c :: cs =>
    if c = 'e' || c = 'E' then
      match cs with
      | '-' :: rest => (digits? rest).map fun n => -(n : Int)
      | '+' :: rest => (digits? rest).map fun n => (n : Int)
      | rest => (digits? rest).map fun n => (n : Int)
    else none

def unsignedLiteral? (negative : Bool) (cs : List Char) : Option Literal := do
  let word := cs.map Char.toLower
  if word = "inf".toList || word = "infinity".toList then some (.infinity negative)
  else if word = "nan".toList then some .nan
  else
    let whole := cs.takeWhile Char.isDigit
    let (fraction, rest) := match cs.dropWhile Char.isDigit with
      | '.' :: tail => (tail.takeWhile Char.isDigit, tail.dropWhile Char.isDigit)
      | tail => ([], tail)
    if whole.isEmpty && fraction.isEmpty then none
    else
      let e ← exponent? rest
      some (.finite negative (ofDigits (whole ++ fraction)) (e - fraction.length))

def literal? (s : String) : Option Literal :=
  match s.toList with
  | '-' :: cs => unsignedLiteral? true cs
  | '+' :: cs => unsignedLiteral? false cs
  | cs => unsignedLiteral? false cs

def numberOfDigits (n : Nat) : Nat := (Nat.toDigits 10 n).length

/-- The machine number nearest to `mantissa * 10 ^ exponent`. Past the ends of the range the answer is
known without the power of ten. -/
def nearest (mantissa : Nat) (exponent : Int) : Float :=
  if mantissa = 0 then 0.0
  else if exponent + numberOfDigits mantissa > 400 then 1.0 / 0.0
  else if exponent + numberOfDigits mantissa < -400 then 0.0
  else if 0 ≤ exponent then Float.ofScientific mantissa false exponent.toNat
  else Float.ofScientific mantissa true (-exponent).toNat

def Literal.toFloat : Literal → Float
  | .nan => 0.0 / 0.0
  | .infinity negative => if negative then -1.0 / 0.0 else 1.0 / 0.0
  | .finite negative mantissa exponent =>
    if negative then -(nearest mantissa exponent) else nearest mantissa exponent

/-- The machine number that a text writes, rounded to nearest. -/
def float? (s : String) : Option Float := (literal? s).map Literal.toFloat

/-! ### Numbers written as text

A number is written as the shortest decimal that reads back as it. A positive finite number is
`m * 2 ^ q`; the reals that round to it form an interval around it, with its ends included exactly when
`m` is even. For one digit, two digits and so on the two neighbours of the number on that decimal grid
are tried in exact arithmetic: if any point of the grid lies in the interval, one of the two does. The
first grid with a hit wins, of two hits the nearer, of two equally near the even one.
-/

/-- The number `digits * 10 ^ exponent` without trailing zeros in `digits`. -/
structure Scaled where
  digits : Nat
  exponent : Int
  deriving DecidableEq

/-- A positive real `number / unit` and the ends `low / unit` and `high / unit` of what rounds to it. -/
structure Rounding where
  number : Nat
  low : Nat
  high : Nat
  unit : Nat
  closed : Bool

/-- What rounds to `m * 2 ^ q`. Below a power of two the neighbour is nearer, unless it is the least
exponent. -/
def Rounding.ofBinary (m : Nat) (q : Int) : Rounding :=
  let gap := if m = Nat.pow 2 52 && q > -1074 then 1 else 2
  let up := if 0 ≤ q then Nat.pow 2 q.toNat else 1
  let down := if 0 ≤ q then 1 else Nat.pow 2 (-q).toNat
  { number := 4 * m * up, low := (4 * m - gap) * up, high := (4 * m + 2) * up, unit := 4 * down,
    closed := m % 2 = 0 }

/-- The same reals measured in units of `10 ^ k`. -/
def Rounding.inUnits (r : Rounding) (k : Int) : Rounding :=
  if 0 ≤ k then { r with unit := r.unit * Nat.pow 10 k.toNat }
  else
    let scale := Nat.pow 10 (-k).toNat
    { r with number := r.number * scale, low := r.low * scale, high := r.high * scale }

def Rounding.admits (r : Rounding) (n : Nat) : Bool :=
  if r.closed then r.low ≤ n * r.unit && n * r.unit ≤ r.high
  else r.low < n * r.unit && n * r.unit < r.high

/-- The whole number that reads back as the number measured in `r`, if there is one. -/
def Rounding.whole? (r : Rounding) : Option Nat :=
  let below := r.number / r.unit
  let above := below + 1
  let toBelow := r.number - below * r.unit
  let toAbove := above * r.unit - r.number
  match r.admits below, r.admits above with
  | true, true =>
    if toBelow < toAbove || (toBelow = toAbove && below % 2 = 0) then some below else some above
  | true, false => some below
  | false, true => some above
  | false, false => none

/-- The exponent `e` with `10 ^ e ≤ number < 10 ^ (e + 1)`. -/
def Rounding.magnitude (r : Rounding) : Int :=
  let guess : Int := (numberOfDigits r.number : Int) - numberOfDigits r.unit
  let s := r.inUnits guess
  if s.unit ≤ s.number then guess else guess - 1

/-- Tries the grids of `10 ^ k`, `10 ^ (k - 1)` and so on, `tries` of them. -/
def Rounding.firstHit (r : Rounding) (k : Int) : Nat → Option (Nat × Int)
  | 0 => none
  | tries + 1 =>
    match (r.inUnits k).whole? with
    | some n => some (n, k)
    | none => r.firstHit (k - 1) tries

/-- Drops up to `fuel` trailing zeros. -/
def stripZeros : Nat → Nat → Int → Scaled
  | 0, n, e => ⟨n, e⟩
  | fuel + 1, n, e =>
    if n ≠ 0 && n % 10 = 0 then stripZeros fuel (n / 10) (e + 1) else ⟨n, e⟩

/-- The shortest decimal that reads back as `m * 2 ^ q`; seventeen digits always suffice. -/
def shortestBinary (m : Nat) (q : Int) : Scaled :=
  let r := Rounding.ofBinary m q
  match r.firstHit r.magnitude 17 with
  | some (n, k) => stripZeros 20 n k
  | none => { digits := 0, exponent := 0 }

/-- The shortest decimal that reads back as the absolute value of a finite number. -/
def shortest (x : Float) : Scaled :=
  let bits := x.toBits.toNat
  let field : Nat := bits / Nat.pow 2 52 % Nat.pow 2 11
  let fraction : Nat := bits % Nat.pow 2 52
  if field = 0 then
    if fraction = 0 then { digits := 0, exponent := 0 } else shortestBinary fraction (-1074)
  else shortestBinary (Nat.pow 2 52 + fraction) ((field : Int) - 1075)

/-- Whether the sign bit is set, which it is for negative zero also. -/
def isNegative (x : Float) : Bool := x.toBits.toNat / Nat.pow 2 63 = 1

end BalanceSheet.Decimal
