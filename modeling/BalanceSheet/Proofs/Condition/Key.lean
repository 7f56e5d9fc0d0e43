import BalanceSheet.Condition.Filter
import BalanceSheet.Proofs.Lists
import BalanceSheet.Proofs.Text.Basic
import Mathlib.Data.List.Basic

/-!
Keys of filters, as they are written and as they are read. Whatever the operator is called, a key written with
it is read as its field and that operator. Five operators have names with an equals sign in them, and a key has
one exactly if it is written with one of these.
-/

namespace BalanceSheet

namespace Operator

theorem exists_spelling {word : String} (h : (parse? word).isSome = true) :
    ∃ op ∈ all, Text.lower word ∈ op.spellings := by
  obtain ⟨op, hop, hspelled⟩ := List.find?_isSome.mp h
  exact ⟨op, hop, by simpa using hspelled⟩

/-- No name of an operator has a blank in it. -/
theorem not_isBlank_of_spelled {word : String} (h : (parse? word).isSome = true) :
    ∀ c ∈ word.toList, Text.isBlank c = false := by
  have hnone : ∀ op ∈ all, ∀ t ∈ op.spellings, ∀ c ∈ t.toList, Text.isBlank c = false := by decide
  obtain ⟨op, hop, hlower⟩ := exists_spelling h
  intro c hc
  by_contra hblank
  have hmem := Text.mem_lower hc
  rw [Text.lowerChar_of_isBlank (by simpa using hblank)] at hmem
  exact hblank (hnone op hop _ hlower c hmem)

/-- The names of operators that have an equals sign in them. -/
def equalsSigns : List String := ["=", "==", "!=", ">=", "<="]

theorem equals_mem_iff {word : String} (h : (parse? word).isSome = true) :
    '=' ∈ word.toList ↔ word ∈ equalsSigns := by
  constructor
  · intro hmem
    have hsigns : ∀ op ∈ all, ∀ t ∈ op.spellings, '=' ∈ t.toList → t ∈ equalsSigns := by decide
    have hplain : ∀ t ∈ equalsSigns, ∀ c ∈ t.toList, c.isLower = false := by decide
    obtain ⟨op, hop, hlower⟩ := exists_spelling h
    have hsign : Text.lower word ∈ equalsSigns := hsigns op hop _ hlower (Text.mem_lower hmem)
    rwa [← Text.eq_of_lower rfl (hplain _ hsign)] at hsign
  · have hsigns : ∀ t ∈ equalsSigns, '=' ∈ t.toList := by decide
    exact hsigns word

end Operator

namespace Filter

/-- A key by its parts: a field, and what an operator is called if there is one. -/
structure Key where
  field : String
  spelling : Option String

namespace Key

def text (k : Key) : String :=
  match k.spelling with
  | none => k.field
  | some word => k.field ++ "[" ++ word ++ "]"

/-- The field is there and has no sign that parts it from what follows, and what follows is an operator. -/
structure Spelled (k : Key) : Prop where
  field_ne : k.field ≠ ""
  field_plain : ∀ c ∈ k.field.toList, c ≠ '=' ∧ c ≠ '[' ∧ Text.isBlank c = false
  operator : ∀ word ∈ k.spelling, (Operator.parse? word).isSome = true

/-- Whether the operator is called by a name with an equals sign in it. -/
def HasEquals (k : Key) : Prop := ∃ word ∈ k.spelling, word ∈ Operator.equalsSigns

variable {k : Key} (h : k.Spelled)

include h

theorem not_isBlank_text : ∀ c ∈ k.text.toList, Text.isBlank c = false := by
  obtain ⟨field, _ | word⟩ := k
  · exact fun c hc => (h.field_plain c hc).2.2
  · intro c hc
    have hword := Operator.not_isBlank_of_spelled (h.operator word rfl)
    simp only [text, String.toList_append, List.mem_append] at hc
    rcases hc with ((hc | hc) | hc) | hc
    · exact (h.field_plain c hc).2.2
    · revert hc c
      decide
    · exact hword c hc
    · revert hc c
      decide

theorem equals_mem_text_iff : '=' ∈ k.text.toList ↔ k.HasEquals := by
  have hfield : '=' ∉ k.field.toList := fun hmem => (h.field_plain _ hmem).1 rfl
  obtain ⟨field, _ | word⟩ := k
  · simpa [text, HasEquals] using hfield
  · have hword := Operator.equals_mem_iff (h.operator word rfl)
    simpa [text, HasEquals, hfield] using hword

/-- Up to the first equals sign in a key, its bracket is open. -/
theorem exists_equals (hequals : k.HasEquals) : ∃ before after,
    k.text.toList = (k.field.toList ++ '[' :: before) ++ '=' :: after ∧
      '=' ∉ k.field.toList ++ '[' :: before ∧ ']' ∉ before := by
  have hfield : '=' ∉ k.field.toList := fun hmem => (h.field_plain _ hmem).1 rfl
  obtain ⟨field, spelling⟩ := k
  obtain ⟨word, rfl, hword⟩ := hequals
  have hsigns : ∀ t ∈ Operator.equalsSigns, '=' ∈ t.toList ∧ ']' ∉ t.toList := by decide
  obtain ⟨hsign, hclose⟩ := hsigns word hword
  cases hcut : Text.cut '=' word.toList with
  | none => exact absurd hsign (Text.cut_eq_none_iff.mp hcut)
  | some parts =>
      obtain ⟨hparts, hbefore⟩ := Text.eq_of_cut hcut
      rw [hparts] at hclose
      refine ⟨parts.1, parts.2 ++ [']'], ?_, ?_, fun hmem => hclose (List.mem_append_left _ hmem)⟩
      · simp [text, hparts]
      · simp [hfield, hbefore]

/-- A key that is written from its parts is read as them. -/
theorem splitKey_text : splitKey k.text = .ok (k.field, k.spelling.bind Operator.parse?) := by
  have hempty : k.field.isEmpty = false := by simpa using h.field_ne
  have hopen : '[' ∉ k.field.toList := fun hmem => (h.field_plain _ hmem).2.1 rfl
  rw [splitKey, Text.trim_eq_self (not_isBlank_text h)]
  obtain ⟨field, _ | word⟩ := k
  · have hcut : Text.cut '[' field.toList = none := Text.cut_eq_none_iff.mpr hopen
    simp only [text, hcut]
    exact if_neg (by simp [hempty])
  · have hcut : Text.cut '[' (field ++ "[" ++ word ++ "]").toList = some (field.toList, word.toList ++ [']']) := by
      simp only [String.toList_append, List.append_assoc]
      exact Text.cut_append hopen _
    obtain ⟨op, hop⟩ := Option.isSome_iff_exists.mp (h.operator word rfl)
    simp only [text, hcut, Text.dropEnding?_append, String.ofList_toList, hop]
    exact (if_neg (by simp [hempty])).trans (congrArg (fun o => Except.ok (field, o)) hop.symm)

end Key
end Filter
end BalanceSheet
