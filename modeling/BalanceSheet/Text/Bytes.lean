/-!
Texts as bytes, and bytes as texts: in hexadecimal digits, in UTF-8, and in sixty-four characters.
-/

namespace BalanceSheet

/-! ### Hexadecimal digits

Both letter cases are read; the lower case is written, or the upper case where a format asks for it.
-/

namespace Text

def hexValue? (c : Char) : Option Nat :=
  if c.isDigit then some (c.toNat - '0'.toNat)
  else if 'a' ≤ c && c ≤ 'f' then some (c.toNat - 'a'.toNat + 10)
  else if 'A' ≤ c && c ≤ 'F' then some (c.toNat - 'A'.toNat + 10)
  else none

def isHex (c : Char) : Bool := (hexValue? c).isSome

/-- The number that hexadecimal digits write. -/
def ofHex? (cs : List Char) : Option Nat := cs.foldlM (fun n c => (hexValue? c).map (16 * n + ·)) 0

/-- The digit of a number below sixteen. -/
def hexDigit (n : Nat) : Char := (Nat.toDigits 16 n).headD '0'

def upperHexDigit (n : Nat) : Char := (hexDigit n).toUpper

end Text

/-! ### UTF-8

Any bytes can be read: where they are no text, each longest start of a character that is broken off, and each byte
that starts none, is read as the replacement character.
-/

namespace Utf8

def encode (cs : List Char) : List UInt8 := cs.flatMap String.utf8EncodeChar

/-- A character of which some bytes are still to come. The next must lie between the bounds. -/
structure Start where
  value : Nat
  missing : Nat
  least : UInt8
  most : UInt8

/-- What a byte means where a character starts: a character, the start of one, or nothing. -/
inductive Lead where
  | char (c : Char)
  | start (s : Start)
  | nothing

/-- Bounds on the second byte keep out surrogates, numbers past the last character, and characters
written with more bytes than they need. -/
def lead (b : UInt8) : Lead :=
  let n := b.toNat
  if b < 0x80 then .char (Char.ofNat n)
  else if b < 0xc2 then .nothing
  else if b < 0xe0 then .start ⟨n - 0xc0, 1, 0x80, 0xbf⟩
  else if b = 0xe0 then .start ⟨0, 2, 0xa0, 0xbf⟩
  else if b = 0xed then .start ⟨0xd, 2, 0x80, 0x9f⟩
  else if b < 0xf0 then .start ⟨n - 0xe0, 2, 0x80, 0xbf⟩
  else if b = 0xf0 then .start ⟨0, 3, 0x90, 0xbf⟩
  else if b < 0xf4 then .start ⟨n - 0xf0, 3, 0x80, 0xbf⟩
  else if b = 0xf4 then .start ⟨4, 3, 0x80, 0x8f⟩
  else .nothing

def replacement : Char := '\ufffd'

/-- Reads bytes after the start of a character, if there is one. -/
def decodeFrom : Option Start → List UInt8 → List Char
  | none, [] => []
  | some _, [] => [replacement]
  | none, b :: bs =>
    match lead b with
    | .char c => c :: decodeFrom none bs
    | .start s => decodeFrom (some s) bs
    | .nothing => replacement :: decodeFrom none bs
  | some s, b :: bs =>
    if s.least ≤ b && b ≤ s.most then
      let value := 64 * s.value + (b.toNat - 0x80)
      if s.missing = 1 then Char.ofNat value :: decodeFrom none bs
      else decodeFrom (some ⟨value, s.missing - 1, 0x80, 0xbf⟩) bs
    else
      match lead b with
      | .char c => replacement :: c :: decodeFrom none bs
      | .start s => replacement :: decodeFrom (some s) bs
      | .nothing => replacement :: replacement :: decodeFrom none bs

/-- The text of any bytes. -/
def decode (bs : List UInt8) : List Char := decodeFrom none bs

/-- The text that bytes are the encoding of. -/
def decode? (bs : List UInt8) : Option (List Char) :=
  let cs := decode bs
  if encode cs = bs then some cs else none

end Utf8

/-! ### Base sixty-four

Three bytes make four characters, and where bytes are missing at the end, so many characters are written as equals
signs.
-/

namespace Base64

/-- The character of a number below sixty-four. -/
def digit (n : Nat) : Char :=
  if n < 26 then Char.ofNat ('A'.toNat + n)
  else if n < 52 then Char.ofNat ('a'.toNat + (n - 26))
  else if n < 62 then Char.ofNat ('0'.toNat + (n - 52))
  else if n = 62 then '+'
  else '/'

def encode : List UInt8 → List Char
  | [] => []
  | [a] => [digit (a.toNat / 4), digit (a.toNat % 4 * 16), '=', '=']
  | [a, b] =>
    [digit (a.toNat / 4), digit (a.toNat % 4 * 16 + b.toNat / 16), digit (b.toNat % 16 * 4), '=']
  | a :: b :: c :: rest =>
    digit (a.toNat / 4) :: digit (a.toNat % 4 * 16 + b.toNat / 16) ::
      digit (b.toNat % 16 * 4 + c.toNat / 64) :: digit (c.toNat % 64) :: encode rest

end Base64

end BalanceSheet
