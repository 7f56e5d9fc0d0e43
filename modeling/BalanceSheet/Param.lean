import BalanceSheet.Json.Basic
import BalanceSheet.Registry.Parts
import BalanceSheet.Store.Rows

/-!
Bound parameters. The values of a request never enter the text of a statement: each is bound under a
name, the statement carries the placeholder of that name, and the store gets the values beside it.
-/

namespace BalanceSheet

structure Param where
  name : String
  type : ValueType
  value : String
  deriving DecidableEq

/-- The name and the type in braces. -/
def Param.placeholder (p : Param) : String := "\x7b" ++ p.name ++ ":" ++ p.type.storeName ++ "\x7d"

def Param.toJson (p : Param) : Json :=
  .object [("name", .string p.name), ("type", .string p.type.storeName), ("value", .string p.value)]

/-- The parameters of one statement, in the order of binding. -/
structure Params where
  toList : List Param
  deriving DecidableEq

namespace Params

def empty : Params := ⟨[]⟩

def toJson (ps : Params) : Json := .array (ps.toList.map Param.toJson)

def size (ps : Params) : Nat := ps.toList.length

def get? (ps : Params) (name : String) : Option Param := ps.toList.find? fun p => p.name == name

def add (ps : Params) (p : Param) : Params := ⟨ps.toList ++ [p]⟩

def indexName (k : Nat) : String := "p" ++ toString k

/-- The least index from `k` on whose name is free, if one of the next `tries` is. -/
def freeIndex (ps : Params) : Nat → Nat → Nat
  | 0, k => k
  | tries + 1, k => if (ps.get? (indexName k)).isSome then ps.freeIndex tries (k + 1) else k

/-- Binds a value under a name of its own, numbered from the count of parameters on. As many indices as
there are parameters are tried, so the one after them is free. -/
def bind (ps : Params) (type : ValueType) (value : String) : Param × Params :=
  let p : Param := ⟨indexName (ps.freeIndex ps.size ps.size), type, value⟩
  (p, ps.add p)

inductive Fault where
  | malformedName (name : String)
  | boundTwice (name : String)
  | unbound (name : String)
  deriving DecidableEq

def Fault.message : Fault → String
  | malformedName name => s!"parameter name '{name}' must be alphanumeric"
  | boundTwice name => s!"parameter '{name}' bound twice"
  | unbound name => s!"placeholder '{name}' has no bound value"

def Fault.toStoreFault (f : Fault) : StoreFault := ⟨.invalidParam, f.message⟩

/-- Letters, digits and underscores, at least one. -/
def isName (name : List Char) : Bool := !name.isEmpty && name.all Identifier.isPart

/-- Binds a value under a given name. -/
def insert (ps : Params) (name : String) (type : ValueType) (value : String) :
    Except Fault (Param × Params) :=
  if !isName name.toList then .error (.malformedName name)
  else if (ps.get? name).isSome then .error (.boundTwice name)
  else .ok (⟨name, type, value⟩, ps.add ⟨name, type, value⟩)

end Params
end BalanceSheet
