import BalanceSheet.Decimal
import BalanceSheet.Text.Basic

/-!
Arguments of a command. An option has a name and perhaps a letter; its value follows it, with or without
an equals sign, or is the next argument, unless that looks like an option. Arguments are read from the
left up to the first that is no option, and the first thing amiss ends the reading.
-/

namespace BalanceSheet.Command

/-- Why arguments name nothing to do. -/
inductive Halt where
  | usage
  | help
  | version
  deriving DecidableEq

/-- What an option does to what has been read. Nothing comes of a value that it may not have, nor of an
option that may not be given again. -/
inductive Effect (σ : Type) where
  | value (set : σ → String → Option σ)
  | flag (set : σ → Option σ)
  | halt (cause : Halt)

structure Switch (σ : Type) where
  name : String
  letter : Option Char
  effect : Effect σ

namespace Switch

variable {σ τ : Type}

/-- An option that holds one value, read by `read?`. -/
def once {α : Type} (name : String) (letter : Option Char) (read? : String → Option α) (get : σ → Option α)
    (put : σ → Option α → σ) : Switch σ :=
  ⟨name, letter, .value fun s text =>
    if (get s).isSome then none else (read? text).map fun a => put s (some a)⟩

/-- An option that is a part of a larger whole. -/
def within (get : τ → σ) (put : τ → σ → τ) (switch : Switch σ) : Switch τ where
  name := switch.name
  letter := switch.letter
  effect := match switch.effect with
    | .value set => .value fun t text => (set (get t) text).map (put t)
    | .flag set => .flag fun t => (set (get t)).map (put t)
    | .halt cause => .halt cause

def help : Switch σ := ⟨"help", some 'h', .halt .help⟩

def version : Switch σ := ⟨"version", some 'V', .halt .version⟩

end Switch

/-- A path, which may not be empty. -/
def path? (text : String) : Option String := if text.isEmpty then none else some text

/-- A number from zero to `most`. -/
def number? (most : Nat) (text : String) : Option Nat :=
  match Decimal.signed? Decimal.maxInt64 text with
  | some n => if 0 ≤ n && n ≤ most then some n.toNat else none
  | none => none

/-- An argument by its shape. -/
inductive Argument where
  /-- The sign that no options follow. -/
  | ending
  | long (name : List Char) (value : Option (List Char))
  | short (letter : Char) (rest : List Char)
  | plain

namespace Argument

def ofText (text : String) : Argument :=
  match text.toList with
  | ['-', '-'] => ending
  | '-' :: '-' :: cs =>
    match Text.cut '=' cs with
    | some (name, value) => long name (some value)
    | none => long cs none
  | '-' :: c :: cs => short c cs
  | _ => plain

def isPlain (argument : Argument) : Bool :=
  match argument with
  | plain => true
  | _ => false

end Argument

/-- How far reading has come: to the next argument, or to an option that its value must follow. -/
inductive Progress (σ : Type) where
  | ready (s : σ)
  | awaits (set : String → Option σ)

variable {σ : Type}

def accepted (s : Option σ) : Except Halt (Progress σ) :=
  match s with
  | some s => .ok (.ready s)
  | none => .error .usage

/-- Applies an option that stands alone or with a value. -/
def Effect.apply (effect : Effect σ) (s : σ) (value : Option (List Char)) : Except Halt (Progress σ) :=
  match effect, value with
  | .value set, some text => accepted (set s (String.ofList text))
  | .value set, none => .ok (.awaits (set s))
  | .flag set, none => accepted (set s)
  | .halt cause, none => .error cause
  | .flag _, some _ | .halt _, some _ => .error .usage

def readLong (switches : List (Switch σ)) (s : σ) (name : List Char) (value : Option (List Char)) :
    Except Halt (Progress σ) :=
  match switches.find? fun switch => switch.name.toList = name with
  | some switch => switch.effect.apply s value
  | none => .error .usage

/-- Reads an option by its letter. What follows the letter is its value, save for an equals sign. -/
def readShort (switches : List (Switch σ)) (s : σ) (letter : Char) (rest : List Char) :
    Except Halt (Progress σ) :=
  match switches.find? fun switch => switch.letter = some letter with
  | none => .error .usage
  | some switch =>
    match switch.effect, rest with
    | .halt cause, _ => .error cause
    | effect, [] => effect.apply s none
    | effect, '=' :: text => effect.apply s (some text)
    | effect, text => effect.apply s (some text)

/-- Reads arguments up to the first that is no option, and gives that and those after it. -/
def readOptions (switches : List (Switch σ)) : Progress σ → List String → Except Halt (σ × List String)
  | .ready s, [] => .ok (s, [])
  | .awaits _, [] => .error .usage
  | .awaits set, text :: rest =>
    if (Argument.ofText text).isPlain then
      match set text with
      | some s => readOptions switches (.ready s) rest
      | none => .error .usage
    else .error .usage
  | .ready s, text :: rest =>
    match Argument.ofText text with
    | .plain => .ok (s, text :: rest)
    | .ending => if rest.isEmpty then .ok (s, []) else .error .usage
    | .long name value =>
      match readLong switches s name value with
      | .ok progress => readOptions switches progress rest
      | .error halt => .error halt
    | .short letter tail =>
      match readShort switches s letter tail with
      | .ok progress => readOptions switches progress rest
      | .error halt => .error halt

/-- Reads arguments that must all be options. -/
def readAll (switches : List (Switch σ)) (s : σ) (arguments : List String) : Except Halt σ :=
  match readOptions switches (.ready s) arguments with
  | .ok (s, []) => .ok s
  | .ok (_, _ :: _) => .error .usage
  | .error halt => .error halt

end BalanceSheet.Command
