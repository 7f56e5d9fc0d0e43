import BalanceSheet.Param
import BalanceSheet.Text.Basic

/-!
The guard in front of the store: a statement must be a query by its first word, must not select into a
table, and must be one statement; and every placeholder in it must have a bound value. It catches
mistakes, and request values, which are bound, do not pass through it.
-/

namespace BalanceSheet.Guard

inductive Fault where
  | notQuery
  | selectInto
  | severalStatements
  deriving DecidableEq

def Fault.message : Fault → String
  | notQuery => "only SELECT and WITH queries are allowed"
  | selectInto => "SELECT INTO is not allowed"
  | severalStatements => "multiple statements not allowed"

def Fault.toStoreFault (f : Fault) : StoreFault := ⟨.invalidSql, f.message⟩

/-- Checks the text of a statement. -/
def checkText (sql : String) : Except Fault Unit :=
  let text := (Text.trim sql).toList
  let upper := Text.upper text
  if !"SELECT".toList.isPrefixOf upper && !"WITH".toList.isPrefixOf upper then .error .notQuery
  else if Text.contains " INTO ".toList upper && !Text.contains "INSERT INTO".toList upper then
    .error .selectInto
  else if text.contains ';' && !Text.endsWith [';'] text then .error .severalStatements
  else .ok ()

/-- The parameter that a braced part refers to: what stands before its first colon, if that is a name. -/
def placeholderName? (inside : List Char) : Option String := do
  let (name, _) ← Text.cut ':' inside
  if Params.isName name then some (String.ofList name) else none

/-- The parameters that a text refers to, from left to right. -/
def placeholderNames (sql : String) : List String := (Text.braced sql.toList).filterMap placeholderName?

/-- Checks that every placeholder has a bound value. -/
def checkParams (sql : String) (params : Params) : Except Params.Fault Unit :=
  match (placeholderNames sql).find? fun name => (params.get? name).isNone with
  | some name => .error (.unbound name)
  | none => .ok ()

/-- Whether a statement passes both checks. -/
def admits (sql : String) (params : Params) : Bool :=
  (checkText sql).toBool && (checkParams sql params).toBool

end BalanceSheet.Guard
