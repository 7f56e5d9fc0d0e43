import BalanceSheet.Proofs.Condition.Placeholders
import Mathlib.Data.List.Perm.Basic

/-!
Texts with their placeholders filled. Under given parameters a text is read as characters and, in the place of each
placeholder that is bound, what is bound to it. A clause under the parameters of its statement then reads as the clause
of its condition with typed values in place of parameters, however the parameters are named.
-/

namespace BalanceSheet

open Text

/-- A character of a text, or what is bound where a placeholder stood. -/
abbrev Piece := Char ⊕ (ValueType × String)

namespace Params

variable {ps : Params}

/-- A part in braces: what is bound to it, or else the part as it stands. -/
def fill (ps : Params) (inside : List Char) : List Piece :=
  match (Guard.placeholderName? inside).bind ps.get? with
  | some p => [.inr p.content]
  | none => ('{' :: (inside ++ ['}'])).map .inl

/-- The text with its placeholders filled, given the reversed inside of the part that is open, if one is. -/
def filledFrom (ps : Params) : Option (List Char) → List Char → List Piece
  | none, [] => []
  | some inside, [] => ('{' :: inside.reverse).map .inl
  | none, c :: cs => if c = '{' then ps.filledFrom (some []) cs else .inl c :: ps.filledFrom none cs
  | some inside, c :: cs =>
    if c = '}' then ps.fill inside.reverse ++ ps.filledFrom none cs else ps.filledFrom (some (c :: inside)) cs

/-- The text with the type and the value of each parameter in the place of its placeholder. -/
def filled (ps : Params) (text : String) : List Piece := ps.filledFrom none text.toList

theorem filledFrom_plain {front : List Char} (hfront : '{' ∉ front) (rest : List Char) :
    ps.filledFrom none (front ++ rest) = front.map .inl ++ ps.filledFrom none rest := by
  induction front with
  | nil => rfl
  | cons c front ih =>
      rw [List.mem_cons, not_or] at hfront
      rw [List.cons_append, filledFrom, if_neg (Ne.symm hfront.1), ih hfront.2]
      rfl

theorem filledFrom_inside {inside : List Char} (hinside : '}' ∉ inside) (seen rest : List Char) :
    ps.filledFrom (some seen) (inside ++ '}' :: rest) =
      ps.fill (seen.reverse ++ inside) ++ ps.filledFrom none rest := by
  induction inside generalizing seen with
  | nil => simp [filledFrom]
  | cons c inside ih =>
      rw [List.mem_cons, not_or] at hinside
      rw [List.cons_append, filledFrom, if_neg (Ne.symm hinside.1), ih hinside.2]
      simp

/-- A parameter is found by its placeholder. -/
theorem Numbered.fill_inside (h : ps.Numbered) {p : Param} (hp : p ∈ ps.toList) :
    ps.fill p.inside = [.inr p.content] := by
  have hget : ps.get? p.name = some p := find?_key_eq_some h.nodup hp
  rw [fill, Param.placeholderName?_inside (h.isName p hp), Option.bind_some, hget]

theorem Numbered.filledFrom_placeholder (h : ps.Numbered) {p : Param} (hp : p ∈ ps.toList) (rest : List Char) :
    ps.filledFrom none (p.placeholder.toList ++ rest) = .inr p.content :: ps.filledFrom none rest := by
  have hinside : '}' ∉ p.inside := (Param.unbraced_inside (h.isName p hp)).2
  rw [Param.toList_placeholder, List.cons_append, filledFrom, if_pos rfl, List.append_assoc, List.singleton_append,
    filledFrom_inside hinside, List.reverse_nil, List.nil_append, h.fill_inside hp]
  rfl

end Params

/-! ### Clauses -/

namespace Clause

/-- What a stretch of words or a typed value reads as. -/
def piece : String ⊕ (ValueType × String) → List Piece
  | .inl word => word.toList.map .inl
  | .inr content => [.inr content]

/-- The clause with typed values, as its text reads when the placeholders are filled. -/
def filled (cl : Clause (ValueType × String)) : List Piece := cl.parts.flatMap piece

theorem filledFrom_join {ps : Params} (hps : ps.Numbered) {parts : List (String ⊕ Param)}
    (hwords : ∀ word, .inl word ∈ parts → Plain word) (hbound : ∀ p, .inr p ∈ parts → p ∈ ps.toList) :
    ps.filledFrom none (String.join (parts.map partText)).toList =
      (parts.map (Sum.map id Param.content)).flatMap piece := by
  induction parts with
  | nil => rfl
  | cons part parts ih =>
      have hrest := ih (fun word h => hwords word (List.mem_cons_of_mem _ h)) fun p h =>
        hbound p (List.mem_cons_of_mem _ h)
      rw [List.map_cons, String.join_cons, String.toList_append, List.map_cons, List.flatMap_cons, ← hrest]
      cases part with
      | inl word => exact Params.filledFrom_plain (hwords word List.mem_cons_self) _
      | inr p => exact hps.filledFrom_placeholder (hbound p List.mem_cons_self) _

/-- Filling the placeholders of a clause gives it back with what its parameters hold. -/
theorem filled_text {ps : Params} (hps : ps.Numbered) {cl : Clause Param} (hwords : ∀ word ∈ cl.words, Plain word)
    (hbound : ∀ p ∈ cl.values, p ∈ ps.toList) : ps.filled cl.text = (cl.map Param.content).filled := by
  rw [Params.filled, text_eq_join, filled, parts_map]
  exact filledFrom_join hps (plain_parts hwords) fun p hp => hbound p (mem_values_of_mem_parts hp)

/-- A placeholder reads as its value, and one that is not bound as it stands. -/
example : (Params.empty.bind .string "north").2.filled "brand = \x7bp0:String\x7d OR \x7bp1:String\x7d" =
    "brand = ".toList.map .inl ++ .inr (.string, "north") :: " OR \x7bp1:String\x7d".toList.map .inl := by
  decide +kernel

end Clause

namespace Condition

/-- What the clause of a condition for the table reads as, if its operator takes its operand and the table has the
column. -/
def filled? (t : Table) (c : Condition) : Option (List Piece) :=
  ((column? t c.field).bind fun column => outline column c).map Clause.filled

theorem Makes.filled_text {t : Table} (ht : t.WellFormed) {c : Condition} {cl : Clause Param} (h : c.Makes t cl)
    {ps : Params} (hps : ps.Numbered) (hbound : ∀ p ∈ cl.values, p ∈ ps.toList) :
    c.filled? t = some (ps.filled cl.text) := by
  rw [Clause.filled_text hps (h.plain_words ht) hbound]
  obtain ⟨column, hcolumn, houtline⟩ := h
  rw [filled?, hcolumn, Option.bind_some, houtline]
  rfl

/-- The clauses of a table read as its conditions do, whatever was bound between them. -/
theorem map_filled_of_makes {t : Table} (ht : t.WellFormed) {cs : List Condition} {cls : List (Clause Param)}
    (h : List.Forall₂ (Makes t) cs cls) {ps : Params} (hps : ps.Numbered)
    (hbound : ∀ p ∈ cls.flatMap Clause.values, p ∈ ps.toList) :
    cs.map (filled? t) = ((cls.map Clause.text).map ps.filled).map some := by
  induction h with
  | nil => rfl
  | cons hc _ ih =>
      rw [List.flatMap_cons, List.forall_mem_append] at hbound
      rw [List.map_cons, hc.filled_text ht hps hbound.1, ih hbound.2]
      rfl

/-- The same conditions in another order make clauses that read the same in another order. -/
theorem perm_filled {t : Table} (ht : t.WellFormed) {cs cs' : List Condition} (hcs : cs.Perm cs')
    {cls cls' : List (Clause Param)} (h : List.Forall₂ (Makes t) cs cls) (h' : List.Forall₂ (Makes t) cs' cls')
    {ps ps' : Params} (hps : ps.Numbered) (hps' : ps'.Numbered)
    (hbound : ∀ p ∈ cls.flatMap Clause.values, p ∈ ps.toList)
    (hbound' : ∀ p ∈ cls'.flatMap Clause.values, p ∈ ps'.toList) :
    ((cls.map Clause.text).map ps.filled).Perm ((cls'.map Clause.text).map ps'.filled) := by
  have hperm := hcs.map (filled? t)
  rw [map_filled_of_makes ht h hps hbound, map_filled_of_makes ht h' hps' hbound'] at hperm
  exact (List.map_perm_map_iff fun _ _ => Option.some.inj).mp hperm

end Condition
end BalanceSheet
