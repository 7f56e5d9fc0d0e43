import BalanceSheet.Query.Statement
import BalanceSheet.Store.Rows

/-!
Questions to another party, and those that the store can be asked.
-/

namespace BalanceSheet

/-! ### Exchanges

Work that may ask the outside one question before its result is known. It is settled at once, or it asks
and goes on with the reply; so it never asks twice, and its result depends on nothing but the reply. A
question can be passed on to another party that may need to ask a question of its own for it.
-/

inductive Exchange (Question Reply α : Type) where
  | settled (result : α)
  | asks (question : Question) (resume : Reply → α)

namespace Exchange

variable {Question Reply α β : Type}

/-- The question that is asked, if one is. -/
def question? : Exchange Question Reply α → Option Question
  | settled _ => none
  | asks question _ => some question

/-- The result, given the reply to the question if one is asked. -/
def result (exchange : Exchange Question Reply α) (reply : Reply) : α :=
  match exchange with
  | settled result => result
  | asks _ resume => resume reply

def map (f : α → β) : Exchange Question Reply α → Exchange Question Reply β
  | settled result => settled (f result)
  | asks question resume => asks question fun reply => f (resume reply)

/-- Asks by way of another party, which settles the question or asks one itself. -/
def through {Question' Reply' : Type} (pass : Question → Exchange Question' Reply' Reply) :
    Exchange Question Reply α → Exchange Question' Reply' α
  | settled result => settled result
  | asks question resume => (pass question).map resume

@[simp] theorem question?_map (f : α → β) (exchange : Exchange Question Reply α) :
    (exchange.map f).question? = exchange.question? := by
  cases exchange <;> rfl

@[simp] theorem result_map (f : α → β) (exchange : Exchange Question Reply α) (reply : Reply) :
    (exchange.map f).result reply = f (exchange.result reply) := by
  cases exchange <;> rfl

end Exchange

/-! ### Questions to the store -/

inductive StoreQuestion where
  | rows (statement : Statement)
  /-- Whether the store answers at all. -/
  | health

/-- The statement that is to be run, if one is. -/
def StoreQuestion.statement? : StoreQuestion → Option Statement
  | rows statement => some statement
  | health => none

/-- The rows of a statement or a fault; whoever only asks for an answer gets no rows. -/
abbrev StoreReply := Except StoreFault Rows

end BalanceSheet
