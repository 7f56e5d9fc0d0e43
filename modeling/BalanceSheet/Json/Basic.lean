import BalanceSheet.Text.Basic

/-!
JSON values, and how values of other types are read from them.
-/

namespace BalanceSheet

/-! ### Values

Members of an object are kept as a list ordered by key, in the order of code points, with
no key twice; `object` builds them so from any list of members, of which the last with a key counts.
-/

/-- A number as it was written: a natural number or a negative integer of 64 bits, else a float. -/
inductive JsonNumber where
  | natural (n : Nat)
  | negative (n : Int)
  | float (x : Float)

inductive Json where
  | null
  | bool (b : Bool)
  | number (n : JsonNumber)
  | string (s : String)
  | array (items : List Json)
  | members (entries : List (String × Json))

/-- An association list ordered by key, such as the columns of a store row. -/
abbrev Record := List (String × Json)

namespace Sorted

/-- Puts a value under a key, in its place by the order of keys, instead of any it had. -/
def insert {α : Type} (key : String) (value : α) : List (String × α) → List (String × α)
  | [] => [(key, value)]
  | (k, v) :: rest =>
    if key < k then (key, value) :: (k, v) :: rest
    else if key = k then (key, value) :: rest
    else (k, v) :: insert key value rest

/-- The entries in the order of keys; the last of those with one key counts. -/
def ofList {α : Type} (entries : List (String × α)) : List (String × α) :=
  entries.foldl (fun sorted (k, v) => insert k v sorted) []

def get? {α : Type} (entries : List (String × α)) (key : String) : Option α :=
  (entries.find? fun entry => entry.1 == key).map Prod.snd

def erase {α : Type} (entries : List (String × α)) (key : String) : List (String × α) :=
  entries.filter fun entry => entry.1 != key

end Sorted

namespace Json

/-- The object with these members, in any order. -/
def object (entries : List (String × Json)) : Json := members (Sorted.ofList entries)

def natural (n : Nat) : Json := number (.natural n)

def float (x : Float) : Json := number (.float x)

def ofOption {α : Type} (f : α → Json) : Option α → Json
  | none => null
  | some a => f a

def strings (items : List String) : Json := array (items.map string)

/-- The member of an object under a key. -/
def get? (json : Json) (key : String) : Option Json :=
  match json with
  | members entries => Sorted.get? entries key
  | _ => none

mutual

/-- The value with the members of all objects in the order of keys. -/
def sortKeys : Json → Json
  | array items => array (sortItems items)
  | members entries => object (sortEntries entries)
  | null => null
  | bool b => bool b
  | number n => number n
  | string s => string s

def sortItems : List Json → List Json
  | [] => []
  | item :: rest => sortKeys item :: sortItems rest

def sortEntries : List (String × Json) → List (String × Json)
  | [] => []
  | (key, value) :: rest => (key, sortKeys value) :: sortEntries rest

end

end Json

/-! ### Fields of objects

A record is an object with the fields of its type, others being ignored, or the list of its fields in order; a
field may be absent only where its type or a default says so. A constant is its name, or an object with that name
as its one key and null under it.
-/

namespace Json

def asString? : Json → Option String
  | string s => some s
  | _ => none

def asBool? : Json → Option Bool
  | bool b => some b
  | _ => none

/-- A natural number up to `most`. -/
def asNatural? (most : Nat) : Json → Option Nat
  | number (.natural n) => if n ≤ most then some n else none
  | _ => none

def asList? {α : Type} (item? : Json → Option α) : Json → Option (List α)
  | array items => items.mapM item?
  | _ => none

/-- One of the constants in `all`, by its name. -/
def asConstant? {α : Type} (all : List α) (name : α → String) : Json → Option α
  | string s => all.find? fun a => name a == s
  | members [(s, null)] => all.find? fun a => name a == s
  | _ => none

/-- The fields of a record whose type has the fields `names`. -/
def asFields? (names : List String) : Json → Option (List (String × Json))
  | members entries => some entries
  | array items => if items.length ≤ names.length then some (names.zip items) else none
  | _ => none

/-- A field that must be there. -/
def required? {α : Type} (fields : List (String × Json)) (name : String) (value? : Json → Option α) :
    Option α :=
  (Sorted.get? fields name).bind value?

/-- A field with a default for where it is absent. -/
def defaulted? {α : Type} (fields : List (String × Json)) (name : String) (value? : Json → Option α)
    (default : α) : Option α :=
  match Sorted.get? fields name with
  | some json => value? json
  | none => some default

/-- A field that may be absent or null. -/
def optional? {α : Type} (fields : List (String × Json)) (name : String) (value? : Json → Option α) :
    Option (Option α) :=
  match Sorted.get? fields name with
  | none | some null => some none
  | some json => (value? json).map some

end Json

end BalanceSheet
