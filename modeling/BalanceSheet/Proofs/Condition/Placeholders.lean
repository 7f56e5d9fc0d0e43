import BalanceSheet.Proofs.Lists
import BalanceSheet.Proofs.Params.Placeholder
import BalanceSheet.Proofs.Registry.Names

/-!
The placeholders of clauses. The text of a clause is stretches of words, made of a column and fixed signs, and between
them the placeholders of its parameters, in the order of its values; so over a well-formed table it shows these
placeholders and opens no other brace.
-/

namespace BalanceSheet

open Text

namespace Clause

variable {α β : Type}

/-- What a clause is made of besides its values. -/
def words : Clause α → List String
  | isNull column | isNotNull column => [column]
  | compares column symbol _ | isAmong column symbol _ => [column, symbol]
  | contains target _ | lacks target _ | startsWith target _ | endsWith target _ => [target]

theorem words_map (f : α → β) (cl : Clause α) : (cl.map f).words = cl.words := by
  cases cl <;> rfl

/-- The items of a list with commas between them. -/
def listed : List α → List (String ⊕ α)
  | [] => []
  | v :: vs => .inr v :: vs.flatMap fun v => [.inl ", ", .inr v]

/-- The stretches of words and the values of a clause, in the order of its text. -/
def parts : Clause α → List (String ⊕ α)
  | isNull column => [.inl (column ++ " IS NULL")]
  | isNotNull column => [.inl (column ++ " IS NOT NULL")]
  | compares column symbol v => [.inl (column ++ " " ++ symbol ++ " "), .inr v]
  | isAmong column symbol vs => .inl (column ++ " " ++ symbol ++ " (") :: listed vs ++ [.inl ")"]
  | contains target v => [.inl ("position(" ++ target ++ ", "), .inr v, .inl ") > 0"]
  | lacks target v => [.inl ("position(" ++ target ++ ", "), .inr v, .inl ") = 0"]
  | startsWith target v => [.inl ("startsWith(" ++ target ++ ", "), .inr v, .inl ")"]
  | endsWith target v => [.inl ("endsWith(" ++ target ++ ", "), .inr v, .inl ")"]

theorem parts_map (f : α → β) (cl : Clause α) : (cl.map f).parts = cl.parts.map (Sum.map id f) := by
  cases cl with
  | isAmong column symbol vs =>
      cases vs <;> simp [parts, map, listed, List.flatMap_map, List.map_flatMap]
  | _ => rfl

theorem filterMap_parts (cl : Clause α) : cl.parts.filterMap Sum.getRight? = cl.values := by
  cases cl with
  | isAmong column symbol vs =>
      cases vs <;> simp [parts, values, listed, List.filterMap_cons, List.filterMap_flatMap]
  | _ => rfl

theorem mem_values_of_mem_parts {cl : Clause α} {v : α} (h : .inr v ∈ cl.parts) : v ∈ cl.values := by
  rw [← filterMap_parts, List.mem_filterMap]
  exact ⟨.inr v, h, rfl⟩

/-- The words between the values are plain if those of the clause are. -/
theorem plain_parts {cl : Clause α} (h : ∀ word ∈ cl.words, Plain word) :
    ∀ word, .inl word ∈ cl.parts → Plain word := by
  have hpunctuation : Plain " " ∧ Plain " (" ∧ Plain ")" ∧ Plain ", " := by decide
  have hnull : Plain " IS NULL" ∧ Plain " IS NOT NULL" := by decide
  have hfunctions : Plain "position(" ∧ Plain "startsWith(" ∧ Plain "endsWith(" := by decide
  have hresults : Plain ") > 0" ∧ Plain ") = 0" := by decide
  cases cl with
  | isAmong column symbol vs =>
      have hlisted (word : String) (hword : .inl word ∈ listed vs) : word = ", " := by
        cases vs with
        | nil => cases hword
        | cons v vs =>
            obtain ⟨-, -, heq⟩ : v ∈ v :: vs ∧ (∃ u, u ∈ vs) ∧ word = ", " := by simpa [listed] using hword
            exact heq
      intro word hword
      rcases List.mem_append.mp hword with hword | hword
      · rcases List.mem_cons.mp hword with hword | hword
        · cases hword
          simp_all [words]
        · exact hlisted word hword ▸ hpunctuation.2.2.2
      · cases List.mem_singleton.mp hword
        exact hpunctuation.2.2.1
  | _ => simp_all [parts, words]

/-- The words as they are, and a placeholder for a parameter. -/
def partText : String ⊕ Param → String
  | .inl word => word
  | .inr p => p.placeholder

theorem join_listed (ps : List Param) :
    String.join ((listed ps).map partText) = ", ".intercalate (ps.map Param.placeholder) := by
  cases ps with
  | nil => rfl
  | cons p ps =>
      induction ps generalizing p with
      | nil => simp [listed, partText]
      | cons p' ps ih =>
          rw [List.map_cons, List.map_cons, String.intercalate_cons_cons, ← List.map_cons, ← ih]
          simp [listed, partText, String.append_assoc]

/-- A clause is its words and placeholders one after the other. -/
theorem text_eq_join (cl : Clause Param) : cl.text = String.join (cl.parts.map partText) := by
  have htext (s : String) : toString s = s := rfl
  cases cl with
  | isAmong column symbol ps => simp [text, parts, partText, ← join_listed, String.append_assoc]
  | _ => simp [text, parts, partText, htext, String.append_assoc]

/-- Words and placeholders one after the other show the placeholders. -/
theorem shows_join {parts : List (String ⊕ Param)} (hwords : ∀ word, .inl word ∈ parts → Plain word)
    (hnames : ∀ p, .inr p ∈ parts → Params.isName p.name.toList = true) :
    Shows (String.join (parts.map partText)) ((parts.filterMap Sum.getRight?).map Param.inside) := by
  induction parts with
  | nil => exact shows_nil_iff.mpr (by decide)
  | cons part parts ih =>
      have hrest := ih (fun word h => hwords word (List.mem_cons_of_mem _ h)) fun p h =>
        hnames p (List.mem_cons_of_mem _ h)
      rw [List.map_cons, String.join_cons]
      cases part with
      | inl word => exact hrest.append_left (hwords word List.mem_cons_self)
      | inr p => exact (Param.shows_placeholder (hnames p List.mem_cons_self)).append hrest

/-- A clause shows the placeholders of its parameters. -/
theorem shows_text {cl : Clause Param} (hwords : ∀ word ∈ cl.words, Plain word)
    (hnames : ∀ p ∈ cl.values, Params.isName p.name.toList = true) :
    Shows cl.text (cl.values.map Param.inside) := by
  rw [text_eq_join, ← filterMap_parts]
  exact shows_join (plain_parts hwords) fun p hp => hnames p (mem_values_of_mem_parts hp)

end Clause

namespace Condition

/-- The signs that compare a column with values. -/
def symbols : List String := ["IN", "NOT IN", "=", "!=", ">", ">=", "<", "<="]

/-- The words of a clause are its column, as such or as text, and a sign. -/
theorem words_outline {column : Column} {c : Condition} {o : Clause (ValueType × String)}
    (h : outline column c = some o) :
    ∀ word ∈ o.words, word = column.name ∨ word = searched column ∨ word ∈ symbols := by
  obtain ⟨field, operator, operand⟩ := c
  cases operand with
  | none => cases operator <;> simp [outline] at h <;> subst h <;> simp [Clause.words]
  | single v => cases operator <;> simp [outline] at h <;> subst h <;> simp [Clause.words, symbols]
  | multiple vs =>
      cases vs <;> cases operator <;> simp [outline] at h <;> subst h <;> simp [Clause.words, symbols]

theorem Makes.words {t : Table} {c : Condition} {cl : Clause Param} (h : c.Makes t cl) :
    ∃ column ∈ column? t c.field,
      ∀ word ∈ cl.words, word = column.name ∨ word = searched column ∨ word ∈ symbols := by
  obtain ⟨column, hcolumn, houtline⟩ := h
  have hwords := words_outline houtline
  rw [Clause.words_map] at hwords
  exact ⟨column, hcolumn, hwords⟩

/-- A condition restricts a column that the table has. -/
theorem hasColumn_of_column? {t : Table} (ht : t.WellFormed) {field : String} {column : Column}
    (h : column? t field = some column) : t.hasColumn column.name = true := by
  unfold column? at h
  split at h
  · cases h
    exact ht.dateColumn
  · exact Table.hasColumn_iff.mpr ⟨column, List.mem_of_find?_eq_some h, rfl⟩

theorem plain_searched {column : Column} (h : Plain column.name) : Plain (searched column) := by
  have hwords : Plain "toString(" ∧ Plain ")" := by decide
  unfold searched
  split
  · exact h
  · simp [h, hwords]

/-- A clause is made of plain words if the columns of the table have plain names. -/
theorem Makes.plain_words_of {t : Table} {c : Condition} {cl : Clause Param} (h : c.Makes t cl)
    (hnames : ∀ column ∈ column? t c.field, Plain column.name) : ∀ word ∈ cl.words, Plain word := by
  obtain ⟨column, hcolumn, hwords⟩ := h.words
  have hname : Plain column.name := hnames column hcolumn
  have hsymbols : ∀ symbol ∈ symbols, Plain symbol := by decide
  intro word hword
  rcases hwords word hword with rfl | rfl | hsymbol
  · exact hname
  · exact plain_searched hname
  · exact hsymbols word hsymbol

theorem Makes.plain_words {t : Table} (ht : t.WellFormed) {c : Condition} {cl : Clause Param}
    (h : c.Makes t cl) : ∀ word ∈ cl.words, Plain word := by
  apply h.plain_words_of
  intro column hcolumn
  exact plain_of_isIdentifier (ht.isIdentifier_of_hasColumn (hasColumn_of_column? ht hcolumn))

/-- The clauses of a table, each with the placeholders of its own parameters. -/
theorem shows_clauses {t : Table} (ht : t.WellFormed) {cs : List Condition} {cls : List (Clause Param)}
    (h : List.Forall₂ (Makes t) cs cls)
    (hnames : ∀ p ∈ cls.flatMap Clause.values, Params.isName p.name.toList = true) :
    List.Forall₂ Shows (cls.map Clause.text) (cls.map fun cl => cl.values.map Param.inside) := by
  rw [List.forall₂_map_left_iff, List.forall₂_map_right_iff, List.forall₂_same]
  intro cl hcl
  obtain ⟨c, -, hmakes⟩ := forall₂_exists_left h hcl
  apply Clause.shows_text (hmakes.plain_words ht)
  intro p hp
  exact hnames p (List.mem_flatMap.mpr ⟨cl, hcl, hp⟩)

end Condition

theorem flatten_map_inside (cls : List (Clause Param)) :
    (cls.map fun cl => cl.values.map Param.inside).flatten = (cls.flatMap Clause.values).map Param.inside := by
  rw [← List.flatMap_def, List.map_flatMap]

end BalanceSheet
