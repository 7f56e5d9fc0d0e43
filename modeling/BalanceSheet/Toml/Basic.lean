import BalanceSheet.Json.Basic
import BalanceSheet.Text.Bytes

/-!
TOML documents as trees, and the strings, keys and comments that they are written with.
-/

namespace BalanceSheet

/-! ### Trees

TOML documents as trees. A table remembers how it came about, since that decides what may still be added
to it: a header opens a table once, the tables on the way to it may be opened later, a table made by a
dotted key takes further dotted keys, and an inline table is complete.
-/

/-- How a table came about. -/
inductive TomlOrigin where
  | header
  /-- On the way to a table with a header. -/
  | path
  | dotted
  | inline
  deriving DecidableEq

inductive Toml where
  | string (s : String)
  | integer (n : Int)
  | float (x : Float)
  | bool (b : Bool)
  | moment (text : String)
  | array (items : List Toml)
  | table (origin : TomlOrigin) (entries : List (String × Toml))
  /-- The tables of headers in double brackets. -/
  | tables (items : List (List (String × Toml)))

namespace Toml

abbrev Entries := List (String × Toml)

/-- Replaces the value under a key that is there, or adds it behind the others. -/
def put (key : String) (value : Toml) : Entries → Entries
  | [] => [(key, value)]
  | (k, v) :: rest => if k = key then (key, value) :: rest else (k, v) :: put key value rest

def find? (entries : Entries) (key : String) : Option Toml :=
  (entries.find? fun entry => entry.1 == key).map Prod.snd

/-- Changes the last of the tables. -/
def updateLast (f : Entries → Option Entries) : List Entries → Option (List Entries)
  | [] => none
  | [last] => (f last).map fun entries => [entries]
  | first :: rest => (updateLast f rest).map (first :: ·)

/-- Adds a value under a dotted key, `path` being what stands before the last part. -/
def insert (key : String) (value : Toml) : List String → Entries → Option Entries
  | [], entries => if (find? entries key).isSome then none else some (entries ++ [(key, value)])
  | part :: path, entries =>
    match find? entries part with
    | none => (insert key value path []).map fun inside => entries ++ [(part, .table .dotted inside)]
    | some (.table .dotted inside) =>
      (insert key value path inside).map fun inside => put part (.table .dotted inside) entries
    | some (.table .path inside) =>
      if path.isEmpty then none
      else (insert key value path inside).map fun inside => put part (.table .path inside) entries
    | some (.tables items) =>
      if path.isEmpty then none
      else (updateLast (insert key value path) items).map fun items => put part (.tables items) entries
    | some _ => none

/-- Goes to the table at a path, which headers have opened or pass through, and changes it. -/
def updateAt (f : Entries → Option Entries) : List String → Entries → Option Entries
  | [], entries => f entries
  | part :: path, entries =>
    match find? entries part with
    | none => (updateAt f path []).map fun inside => put part (.table .path inside) entries
    | some (.table .inline _) => none
    | some (.table origin inside) =>
      (updateAt f path inside).map fun inside => put part (.table origin inside) entries
    | some (.tables items) =>
      (updateLast (updateAt f path) items).map fun items => put part (.tables items) entries
    | some _ => none

/-- Opens the table of a header. -/
def openTable (key : String) (entries : Entries) : Option Entries :=
  match find? entries key with
  | none => some (put key (.table .header []) entries)
  | some (.table .path inside) => some (put key (.table .header inside) entries)
  | some _ => none

/-- Opens one more of the tables of a header in double brackets. -/
def openTables (key : String) (entries : Entries) : Option Entries :=
  match find? entries key with
  | none => some (put key (.tables [[]]) entries)
  | some (.tables items) => some (put key (.tables (items ++ [[]])) entries)
  | some _ => none

mutual

/-- The JSON form, in which a moment of time is an object of its own kind. -/
def toJson : Toml → Json
  | .string s => .string s
  | .integer n => .number (if 0 ≤ n then .natural n.toNat else .negative n)
  | .float x => .float x
  | .bool b => .bool b
  | .moment text => .members [("$moment", .string text)]
  | .array items => .array (itemsToJson items)
  | .table _ entries => .object (entriesToJson entries)
  | .tables items => .array (tablesToJson items)

def itemsToJson : List Toml → List Json
  | [] => []
  | item :: rest => toJson item :: itemsToJson rest

def entriesToJson : List (String × Toml) → List (String × Json)
  | [] => []
  | (key, value) :: rest => (key, toJson value) :: entriesToJson rest

def tablesToJson : List (List (String × Toml)) → List Json
  | [] => []
  | entries :: rest => .object (entriesToJson entries) :: tablesToJson rest

end

end Toml

/-! ### Strings, keys and comments

Strings, keys and comments of a TOML document. A string stands in quotation marks, with escapes, or in
apostrophes, without; three of either make it run over lines. Control characters are not allowed, apart
from tabs, and line breaks in strings that run over lines.
-/

namespace Toml

def isInlineBlank (c : Char) : Bool := c = ' ' || c = '\t'

def skipInlineBlank (cs : List Char) : List Char := cs.dropWhile isInlineBlank

/-- Characters that comments and strings may have as they are. -/
def isTextChar (c : Char) : Bool := c = '\t' || (' ' ≤ c && c ≠ '\x7f')

/-- The text after a line break at the start. -/
def dropLineBreak? : List Char → Option (List Char)
  | '\n' :: rest => some rest
  | '\r' :: '\n' :: rest => some rest
  | _ => none

def dropOptionalLineBreak (cs : List Char) : List Char := (dropLineBreak? cs).getD cs

/-- The text after a comment, if there is one. -/
def skipComment : List Char → List Char
  | '#' :: rest => rest.dropWhile isTextChar
  | cs => cs

/-- The text after the end of a line: blanks and a comment may stand before it. -/
def endLine? (cs : List Char) : Option (List Char) :=
  match skipComment (skipInlineBlank cs) with
  | [] => some []
  | rest => dropLineBreak? rest

/-- The character with a number, written with a count of hexadecimal digits, and the rest. -/
def numbered? (count : Nat) (cs : List Char) : Option (Char × List Char) := do
  if cs.length < count then none
  else
    let n ← Text.ofHex? (cs.take count)
    if n < 0xd800 || (0xe000 ≤ n && n < 0x110000) then some (Char.ofNat n, cs.drop count) else none

/-- The character of an escape, after its backslash, and the rest. -/
def escape? : List Char → Option (Char × List Char)
  | 'b' :: rest => some ('\x08', rest)
  | 't' :: rest => some ('\t', rest)
  | 'n' :: rest => some ('\n', rest)
  | 'f' :: rest => some ('\x0c', rest)
  | 'r' :: rest => some ('\r', rest)
  | '"' :: rest => some ('"', rest)
  | '\\' :: rest => some ('\\', rest)
  | 'u' :: rest => numbered? 4 rest
  | 'U' :: rest => numbered? 8 rest
  | _ => none

/-- Blanks and line breaks. -/
def skipLines : List Char → List Char
  | ' ' :: rest | '\t' :: rest | '\n' :: rest | '\r' :: '\n' :: rest => skipLines rest
  | cs => cs

/-- The text after an escaped line break, with the blanks and lines that it swallows. -/
def escapedLineBreak? (cs : List Char) : Option (List Char) :=
  (dropLineBreak? (skipInlineBlank cs)).map skipLines

/-- A string in quotation marks, from after the first; `fuel` bounds the number of characters. -/
def basic? : Nat → List Char → Option (List Char × List Char)
  | 0, _ => none
  | _ + 1, [] => none
  | fuel + 1, c :: cs =>
    if c = '"' then some ([], cs)
    else if c = '\\' then do
      let (d, rest) ← escape? cs
      let (body, after) ← basic? fuel rest
      some (d :: body, after)
    else if isTextChar c then (basic? fuel cs).map fun (body, after) => (c :: body, after)
    else none

/-- A string in apostrophes, from after the first. -/
def literal? : List Char → Option (List Char × List Char)
  | [] => none
  | c :: cs =>
    if c = '\'' then some ([], cs)
    else if isTextChar c then (literal? cs).map fun (body, after) => (c :: body, after)
    else none

/-- What a run of `n` marks says in a string that three of them end: marks of the text, and whether the
string ends. -/
def markRun (n : Nat) : Option (Nat × Bool) :=
  if n < 3 then some (n, false) else if n ≤ 5 then some (n - 3, true) else none

/-- A string over lines that three `mark`s end, with escapes where `escapes` says so. -/
def lines? (mark : Char) (escapes : Bool) : Nat → List Char → Option (List Char × List Char)
  | 0, _ => none
  | _ + 1, [] => none
  | fuel + 1, c :: cs =>
    if c = mark then do
      let (marks, ends) ← markRun (((c :: cs).takeWhile (· == mark)).length)
      let rest := (c :: cs).dropWhile (· == mark)
      let inside := List.replicate marks mark
      if ends then some (inside, rest)
      else
        let (body, after) ← lines? mark escapes fuel rest
        some (inside ++ body, after)
    else if escapes && c = '\\' then
      match escapedLineBreak? cs with
      | some rest => lines? mark escapes fuel rest
      | none => do
        let (d, rest) ← escape? cs
        let (body, after) ← lines? mark escapes fuel rest
        some (d :: body, after)
    else
      match dropLineBreak? (c :: cs) with
      | some rest => (lines? mark escapes fuel rest).map fun (body, after) => ('\n' :: body, after)
      | none =>
        if isTextChar c then (lines? mark escapes fuel cs).map fun (body, after) => (c :: body, after)
        else none

/-- A string at the start, and the rest. -/
def string? (cs : List Char) : Option (List Char × List Char) :=
  match cs with
  | '"' :: '"' :: '"' :: rest => lines? '"' true (rest.length + 1) (dropOptionalLineBreak rest)
  | '\'' :: '\'' :: '\'' :: rest => lines? '\'' false (rest.length + 1) (dropOptionalLineBreak rest)
  | '"' :: rest => basic? (rest.length + 1) rest
  | '\'' :: rest => literal? rest
  | _ => none

def isBareKeyChar (c : Char) : Bool := c.isAlphanum || c = '_' || c = '-'

/-- One part of a key, and the rest. -/
def keyPart? (cs : List Char) : Option (String × List Char) :=
  match cs with
  | '"' :: rest => (basic? (rest.length + 1) rest).map fun (body, after) => (String.ofList body, after)
  | '\'' :: rest => (literal? rest).map fun (body, after) => (String.ofList body, after)
  | _ =>
    let bare := cs.takeWhile isBareKeyChar
    if bare.isEmpty then none else some (String.ofList bare, cs.dropWhile isBareKeyChar)

/-- A key of parts with dots between, as its last part and those before, and the rest. Blanks may stand
around each part. -/
def key? : Nat → List Char → Option ((List String × String) × List Char)
  | 0, _ => none
  | fuel + 1, cs => do
    let (part, rest) ← keyPart? (skipInlineBlank cs)
    match skipInlineBlank rest with
    | '.' :: more =>
      let ((path, last), after) ← key? fuel more
      some ((part :: path, last), after)
    | after => some (([], part), after)

/-- Keys have fewer parts than this. -/
def maxDepth : Nat := 80

end Toml

end BalanceSheet
