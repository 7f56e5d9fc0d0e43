import BalanceSheet.Proofs.Except
import BalanceSheet.Proofs.Text.Words
import BalanceSheet.Store.Client
import Mathlib.Data.List.DropRight

/-!
What the guard admits and the store is sent. A statement passes if it opens like a query, has no word INTO
between two spaces unless it speaks of INSERT INTO, and ends with a semicolon if it has any. The client cuts
off the semicolons at the end, so a statement with one at its end may keep others inside; and a word INTO
beside a line break is not seen.
-/

namespace BalanceSheet

namespace Guard

open Text

/-- The text opens like a query, in any letter case. -/
def OpensQuery (text : List Char) : Prop := "SELECT".toList <+: upper text ∨ "WITH".toList <+: upper text

/-- INSERT INTO stands in the text, or else no word INTO between two spaces. -/
def IntoPasses (text : List Char) : Prop := "INSERT INTO".toList <:+: upper text ∨ ¬ SpacedInto text

/-- A text with a semicolon ends with one. -/
def SemicolonsPass (text : List Char) : Prop := ';' ∈ text → text.getLast? = some ';'

theorem checkText_eq_ok_iff {sql : String} : checkText sql = .ok () ↔
    OpensQuery (trim sql).toList ∧ IntoPasses (trim sql).toList ∧ SemicolonsPass (trim sql).toList := by
  simp only [checkText, Except.refuse_eq_ok_iff, Bool.and_eq_true, Bool.not_eq_true', ← Bool.not_eq_true,
    List.isPrefixOf_iff_prefix, contains_into_iff, endsWith_singleton_iff, List.contains_iff_mem, and_true]
  rw [contains_iff_isInfix]
  exact and_congr or_iff_not_and_not.symm
    (and_congr (not_and_not_right.trans imp_iff_or_not) not_and_not_right)

/-! ### The word INTO -/

/-- A word INTO between two spaces stands between blanks, with a space on either side. -/
theorem spacedInto_iff {text : List Char} : SpacedInto text ↔
    ∃ before word after, text = before ++ word ++ after ∧ Stretch isBlank before word after ∧
      IsInto word ∧ before.getLast? = some ' ' ∧ after.head? = some ' ' := by
  constructor
  · rintro ⟨before, word, after, rfl, hword⟩
    refine ⟨before ++ [' '], word, ' ' :: after, by simp, ⟨hword.not_isBlank, ?_, ?_⟩, hword, by simp, rfl⟩
    · simp only [List.getLast?_concat, Option.mem_some_iff, forall_eq']
      decide
    · simp only [List.head?_cons, Option.mem_some_iff, forall_eq']
      decide
  · rintro ⟨before, word, after, rfl, -, hword, hleft, hright⟩
    obtain ⟨front, rfl⟩ := List.getLast?_eq_some_iff.mp hleft
    obtain ⟨rest, rfl⟩ := List.head?_eq_some_iff.mp hright
    exact ⟨front, word, rest, by simp, hword⟩

/-- The guard sees a word INTO only between two spaces, and only where no INSERT INTO stands in the text. -/
theorem admits_iff_into_unspaced (sql : String) : checkText sql = .ok () ↔
    OpensQuery (trim sql).toList ∧ SemicolonsPass (trim sql).toList ∧
      ("INSERT INTO".toList <:+: upper (trim sql).toList ∨
        ∀ before word after, (trim sql).toList = before ++ word ++ after →
          Stretch isBlank before word after → IsInto word →
            ¬ (before.getLast? = some ' ' ∧ after.head? = some ' ')) := by
  rw [checkText_eq_ok_iff, IntoPasses, spacedInto_iff]
  simp only [not_exists, not_and]
  exact and_congr_right' and_comm

/-- A line break before INTO, and a table expression before INSERT INTO. -/
theorem admits_writing :
    checkText "SELECT *\nINTO backup FROM transactions" = .ok () ∧
    (∃ word ∈ "SELECT *\nINTO backup FROM transactions".toList.splitOnP isBlank, IsInto word) ∧
    checkText "WITH x AS (SELECT 1 AS n) INSERT INTO backup SELECT n FROM x" = .ok () ∧
    ∃ word ∈ "WITH x AS (SELECT 1 AS n) INSERT INTO backup SELECT n FROM x".toList.splitOnP isBlank,
      IsInto word := by
  decide +kernel

end Guard

namespace StoreClient

open Guard Text

/-! ### Semicolons -/

theorem toList_bareStatement (sql : String) :
    (bareStatement sql).toList = (trim sql).toList.rdropWhile (· == ';') := by
  rw [bareStatement, String.toList_ofList, List.rdropWhile]

/-- The semicolons at the end are all that is cut off. -/
theorem exists_cutOff (sql : String) :
    ∃ k, (trim sql).toList = (bareStatement sql).toList ++ List.replicate k ';' := by
  refine ⟨((trim sql).toList.rtakeWhile (· == ';')).length, ?_⟩
  have hcut : (trim sql).toList.rtakeWhile (· == ';') =
      List.replicate ((trim sql).toList.rtakeWhile (· == ';')).length ';' :=
    List.eq_replicate_iff.mpr ⟨rfl, fun c hc => by simpa using List.mem_rtakeWhile_imp hc⟩
  rw [toList_bareStatement, ← hcut, List.rdropWhile_append_rtakeWhile]

theorem getLast?_bareStatement (sql : String) : (bareStatement sql).toList.getLast? ≠ some ';' := by
  rw [toList_bareStatement]
  intro h
  have hne : (trim sql).toList.rdropWhile (· == ';') ≠ [] := by
    rintro hnil
    simp [hnil] at h
  rw [List.getLast?_eq_some_getLast hne, Option.some_inj] at h
  exact List.rdropWhile_last_not _ _ hne (by simp [h])

theorem toList_bareStatement_eq {sql : String} {body : List Char} {k : Nat}
    (h : (trim sql).toList = body ++ List.replicate k ';') (hlast : body.getLast? ≠ some ';') :
    (bareStatement sql).toList = body := by
  rw [toList_bareStatement, h]
  clear h
  induction k with
  | zero =>
      rw [List.replicate_zero, List.append_nil, List.rdropWhile_eq_self_iff]
      intro hne hsemicolon
      rw [List.getLast?_eq_some_getLast hne] at hlast
      exact hlast (congrArg some (beq_iff_eq.mp hsemicolon))
  | succ k ih => rw [List.replicate_succ', ← List.append_assoc, List.rdropWhile_concat_pos _ _ _ (by decide), ih]

theorem getLast?_append_cons_concat {α : Type} (first second : List α) (a b : α) :
    (first ++ a :: (second ++ [b])).getLast? = some b := by
  rw [← List.cons_append, ← List.append_assoc, List.getLast?_concat]

/-- The text ends with semicolons, and has one more before another character. -/
def InnerSemicolon (text : List Char) : Prop :=
  ∃ first second c k, c ≠ ';' ∧ text = first ++ ';' :: (second ++ c :: List.replicate (k + 1) ';')

theorem admitted_semicolon_iff {sql : String} :
    checkText sql = .ok () ∧ ';' ∈ (bareStatement sql).toList ↔
      OpensQuery (trim sql).toList ∧ IntoPasses (trim sql).toList ∧ InnerSemicolon (trim sql).toList := by
  rw [checkText_eq_ok_iff]
  constructor
  · rintro ⟨⟨hopens, hinto, hsemicolons⟩, hmem⟩
    refine ⟨hopens, hinto, ?_⟩
    obtain ⟨k, htext⟩ := exists_cutOff sql
    have hlast := getLast?_bareStatement sql
    obtain ⟨first, second, hbare⟩ := List.append_of_mem hmem
    rw [hbare] at htext hlast
    cases k with
    | zero =>
        have hend := hsemicolons (by simp [htext])
        rw [htext, List.replicate_zero, List.append_nil] at hend
        exact absurd hend hlast
    | succ k =>
        rcases List.eq_nil_or_concat' second with rfl | ⟨second, c, rfl⟩
        · simp at hlast
        · rw [getLast?_append_cons_concat] at hlast
          exact ⟨first, second, c, k, fun hc => hlast (congrArg some hc), by simpa using htext⟩
  · rintro ⟨hopens, hinto, first, second, c, k, hc, htext⟩
    have hbare : (bareStatement sql).toList = first ++ ';' :: (second ++ [c]) := by
      apply toList_bareStatement_eq
      · show (trim sql).toList = first ++ ';' :: (second ++ [c]) ++ List.replicate (k + 1) ';'
        simp [htext]
      · rw [getLast?_append_cons_concat]
        simpa using hc
    have hlast : (trim sql).toList.getLast? = some ';' :=
      List.getLast?_eq_some_iff.mpr
        ⟨first ++ ';' :: (second ++ c :: List.replicate k ';'), by simp [htext, List.replicate_succ']⟩
    exact ⟨⟨hopens, hinto, fun _ => hlast⟩, by simp [hbare]⟩

/-! ### What is sent -/

variable {c : StoreClient} {sql : String} {params : Params} {request : HttpRequest}

theorem question?_execute_eq_some_iff : (c.execute sql params).question? = some request ↔
    c.url.takesRequests = true ∧ checkText sql = .ok () ∧ checkParams sql params = .ok () ∧
      c.request (bareStatement sql ++ " FORMAT JSONEachRow") params = request := by
  unfold execute
  split
  case h_1 fault htext => simp [Exchange.question?, htext]
  case h_2 fault htext hparams => simp [Exchange.question?, hparams]
  case h_3 htext hparams =>
    unfold send
    split <;> simp_all [Exchange.question?]

/-- What is sent has a semicolon exactly where the text of the statement, once admitted, has semicolons at
its end and one more inside: then several statements are admitted and sent as they stand. -/
theorem sends_semicolon_iff (sql : String) :
    (checkText sql = .ok () ∧ ';' ∈ (bareStatement sql).toList ↔
      OpensQuery (trim sql).toList ∧ IntoPasses (trim sql).toList ∧ InnerSemicolon (trim sql).toList) ∧
    ∀ (c : StoreClient) (params : Params),
      (∃ request body, (c.execute sql params).question? = some request ∧
        request.body = body ++ " FORMAT JSONEachRow" ∧ ';' ∈ body.toList) ↔
      c.url.takesRequests = true ∧ checkParams sql params = .ok () ∧
        OpensQuery (trim sql).toList ∧ IntoPasses (trim sql).toList ∧ InnerSemicolon (trim sql).toList := by
  refine ⟨admitted_semicolon_iff, fun c params => ?_⟩
  rw [← admitted_semicolon_iff]
  constructor
  · rintro ⟨request, body, hasked, hbody, hmem⟩
    obtain ⟨htakes, htext, hparams, rfl⟩ := question?_execute_eq_some_iff.mp hasked
    obtain rfl : bareStatement sql = body := by simpa [StoreClient.request] using hbody
    exact ⟨htakes, hparams, htext, hmem⟩
  · rintro ⟨htakes, hparams, htext, hmem⟩
    exact ⟨_, bareStatement sql, question?_execute_eq_some_iff.mpr ⟨htakes, htext, hparams, rfl⟩, rfl, hmem⟩

/-- A query and a command behind it. -/
theorem sends_two_statements :
    checkText "SELECT 1; DROP TABLE transactions;" = .ok () ∧
    bareStatement "SELECT 1; DROP TABLE transactions;" = "SELECT 1; DROP TABLE transactions" ∧
    ';' ∈ (bareStatement "SELECT 1; DROP TABLE transactions;").toList := by
  decide +kernel

end StoreClient

end BalanceSheet
