import BalanceSheet.Json.Parser
import BalanceSheet.Json.Printer
import BalanceSheet.Proofs.Lists
import BalanceSheet.Proofs.Text.Basic

/-!
Whole numbers and strings in JSON, written and read back.
-/

namespace BalanceSheet.Json

/-! ### Whole numbers

A number is written without needless zeros in front, all its digits are read as long as they fit 64 bits, and
where neither another digit nor a point nor an exponent follows it is over. So integers of 64 bits are kept as
they are.
-/

/-- No number goes on here. -/
def EndsNumber (rest : List Char) : Prop := ∀ c ∈ rest.head?, c.isDigit = false ∧ c ≠ '.' ∧ c ≠ 'e' ∧ c ≠ 'E'

theorem le_ofDigitChars (ds : List Char) (n : Nat) : n ≤ Nat.ofDigitChars 10 ds n := by
  induction ds generalizing n with
  | nil => exact Nat.le_refl n
  | cons d ds ih => exact Nat.le_trans (by omega) (ih (10 * n + (d.toNat - '0'.toNat)))

/-- All digits are taken where the whole number fits. -/
theorem absorb_eq {ds : List Char} {n : Nat} (h : Nat.ofDigitChars 10 ds n ≤ Decimal.maxUInt64) :
    absorb n ds = (Nat.ofDigitChars 10 ds n, ds.length) := by
  induction ds generalizing n with
  | nil => rfl
  | cons d ds ih =>
      have hnext : 10 * n + (d.toNat - '0'.toNat) ≤ Decimal.maxUInt64 := Nat.le_trans (le_ofDigitChars ds _) h
      rw [absorb, if_pos hnext, ih h]
      rfl

section

variable {rest : List Char}

theorem fraction?_of_ends (h : EndsNumber rest) : fraction? rest = some ([], rest) := by
  unfold fraction?
  split
  case h_1 rest' => exact absurd rfl (h '.' rfl).2.1
  case h_2 => rfl

theorem exponent?_of_ends (h : EndsNumber rest) : exponent? rest = some (none, rest) := by
  cases rest with
  | nil => rfl
  | cons c rest =>
      obtain ⟨-, -, hlower, hupper⟩ := h c rfl
      unfold exponent?
      simp [hlower, hupper]

/-- The digits of a number of 64 bits are read as that number. -/
theorem number?_toDigits {negative : Bool} {n : Nat} (hn : n ≤ Decimal.maxUInt64) (hrest : EndsNumber rest) :
    number? negative (Nat.toDigits 10 n ++ rest) = some (wholeNumber negative n, rest) := by
  have hvalue : Nat.ofDigitChars 10 (Nat.toDigits 10 n) 0 = n := Nat.ofDigitChars_toDigits (by decide) (by decide)
  have habsorb : absorb 0 (Nat.toDigits 10 n) = (n, (Nat.toDigits 10 n).length) := by
    rw [absorb_eq (by rwa [hvalue]), hvalue]
  obtain ⟨htake, hdrop⟩ :=
    Text.takeWhile_append_of_stop (fun _ => Text.isDigit_of_mem_toDigits) fun c hc => (hrest c hc).1
  have hfront : ¬ ((Nat.toDigits 10 n).isEmpty ||
      ((Nat.toDigits 10 n).head? = some '0' && (Nat.toDigits 10 n).length > 1)) = true := by
    intro h
    rcases Bool.or_eq_true_iff.mp h with hempty | hzero
    · exact Nat.toDigits_ne_nil (List.isEmpty_iff.mp hempty)
    · simp only [Bool.and_eq_true, decide_eq_true_eq] at hzero
      rw [Text.eq_zero_of_head?_toDigits hzero.1] at hzero
      exact absurd hzero.2 (by decide)
  rw [number?, htake, hdrop]
  simp only [if_neg hfront, fraction?_of_ends hrest, exponent?_of_ends hrest, habsorb, Option.bind_eq_bind,
    Option.bind_some, List.isEmpty_nil, Option.isNone_none, Bool.and_self, decide_true, if_true]

end

/-! ### Strings

Each character is written as itself, as a short escape or by its number, and is read as that character whatever
follows it; nothing that is written is a control character.
-/

/-- Nothing in the text is a control character. -/
def Printable (cs : List Char) : Prop := ∀ c ∈ cs, 32 ≤ c.toNat

@[simp]
theorem printable_nil : Printable [] := List.forall_mem_nil _

@[simp]
theorem printable_cons {c : Char} {cs : List Char} : Printable (c :: cs) ↔ 32 ≤ c.toNat ∧ Printable cs :=
  List.forall_mem_cons

@[simp]
theorem printable_append {cs cs' : List Char} : Printable (cs ++ cs') ↔ Printable cs ∧ Printable cs' :=
  List.forall_mem_append

/-- Puts a character before the body of a string. -/
def consBody (c : Char) (read : List Char × List Char) : List Char × List Char := (c :: read.1, read.2)

/-! ### One character -/

section

variable {a b c d e : Char} {n : Nat} (rest : List Char)

theorem stringBody?_escape (hletter : e ≠ 'u') (he : escape? e = some c) :
    stringBody? ('\\' :: e :: rest) = (stringBody? rest).map (consBody c) := by
  rw [stringBody?.eq_5 _ _ (fun _ _ _ _ _ _ _ _ _ h => absurd h hletter) fun _ _ _ _ _ h => absurd h hletter, he]
  rfl

theorem stringBody?_plain (hmark : c ≠ '"') (hslash : c ≠ '\\') (hcontrol : 32 ≤ c.toNat) :
    stringBody? (c :: rest) = (stringBody? rest).map (consBody c) := by
  rw [stringBody?.eq_6 _ _ hmark (fun _ _ _ _ _ _ _ _ _ h => absurd h hslash)
    (fun _ _ _ _ _ h => absurd h hslash) fun _ _ h => absurd h hslash, if_neg (Nat.not_lt.mpr hcontrol)]
  rfl

theorem stringBody?_of_unit_none (hunit : unit? a b c d = none) :
    stringBody? ('\\' :: 'u' :: a :: b :: c :: d :: rest) = none := by
  by_cases hnext : ∃ e f g h rest', rest = '\\' :: 'u' :: e :: f :: g :: h :: rest'
  · obtain ⟨e, f, g, h, rest', rfl⟩ := hnext
    rw [stringBody?.eq_3, hunit]
  · rw [stringBody?.eq_4 _ _ _ _ _ fun e f g h rest' heq => hnext ⟨e, f, g, h, rest', heq⟩, hunit]

/-- A unit that is no surrogate is a character by itself, also where another unit follows. -/
theorem stringBody?_unit (hunit : unit? a b c d = some n) (hn : n < 0xd800) :
    stringBody? ('\\' :: 'u' :: a :: b :: c :: d :: rest) = (stringBody? rest).map (consBody (Char.ofNat n)) := by
  have hhigh : (decide (0xd800 ≤ n) && decide (n < 0xdc00)) = false := by simp; omega
  have hlow : (decide (0xdc00 ≤ n) && decide (n < 0xe000)) = false := by simp; omega
  have hany : (decide (0xd800 ≤ n) && decide (n < 0xe000)) = false := by simp; omega
  by_cases hnext : ∃ e f g h rest', rest = '\\' :: 'u' :: e :: f :: g :: h :: rest'
  · obtain ⟨e, f, g, h, rest', rfl⟩ := hnext
    rw [stringBody?.eq_3, hunit]
    cases hsecond : unit? e f g h with
    | some low =>
        simp only [hhigh, hlow, Bool.false_eq_true, if_false]
        rfl
    | none =>
        rw [stringBody?_of_unit_none _ hsecond]
        rfl
  · rw [stringBody?.eq_4 _ _ _ _ _ fun e f g h rest' heq => hnext ⟨e, f, g, h, rest', heq⟩, hunit]
    simp only [hany, Bool.false_eq_true, if_false]
    rfl

end

theorem unit?_hexDigit : ∀ n < 32, unit? '0' '0' (Text.hexDigit (n / 16)) (Text.hexDigit (n % 16)) = some n := by
  decide

/-! ### What is written -/

/-- The ways in which a character is written: by a letter, by its number, and as itself. -/
inductive Written (c : Char) : List Char → Prop where
  | escape {e : Char} (hletter : e ≠ 'u') (he : escape? e = some c) (hprintable : 32 ≤ e.toNat) :
      Written c ['\\', e]
  | unit (hcontrol : c.toNat < 32) :
      Written c ['\\', 'u', '0', '0', Text.hexDigit (c.toNat / 16), Text.hexDigit (c.toNat % 16)]
  | plain (hmark : c ≠ '"') (hslash : c ≠ '\\') (hprintable : 32 ≤ c.toNat) : Written c [c]

theorem written_escapeChar (c : Char) : Written c (escapeChar c) := by
  have hletters : ∀ c ∈ ['"', '\\', '\n', '\r', '\t', '\x08', '\x0c'],
      ∃ e ∈ ['"', '\\', 'n', 'r', 't', 'b', 'f'], escapeChar c = ['\\', e] ∧ e ≠ 'u' ∧ escape? e = some c ∧
        32 ≤ e.toNat := by
    decide
  by_cases hc : c ∈ ['"', '\\', '\n', '\r', '\t', '\x08', '\x0c']
  · obtain ⟨e, -, hwritten, hletter, he, hprintable⟩ := hletters c hc
    exact hwritten ▸ .escape hletter he hprintable
  · simp only [List.mem_cons, List.not_mem_nil, or_false, not_or] at hc
    obtain ⟨hmark, hslash, hline, hreturn, htab, hback, hfeed⟩ := hc
    rw [escapeChar, if_neg hmark, if_neg hslash, if_neg hline, if_neg hreturn, if_neg htab, if_neg hback,
      if_neg hfeed]
    split
    case isTrue hcontrol => exact .unit hcontrol
    case isFalse hcontrol => exact .plain hmark hslash (Nat.not_lt.mp hcontrol)

/-- A character is not written with control characters. -/
theorem Written.printable {c : Char} {cs : List Char} (h : Written c cs) : Printable cs := by
  have hdigit : ∀ n < 16, 32 ≤ (Text.hexDigit n).toNat := by decide
  cases h with
  | escape _ _ hprintable => simpa using hprintable
  | unit hcontrol => simp [hdigit (c.toNat / 16) (by omega), hdigit (c.toNat % 16) (by omega)]
  | plain _ _ hprintable => simpa using hprintable

/-! ### Reading it back -/

/-- A character is read as it was written, whatever follows. -/
theorem Written.stringBody?_append {c : Char} {cs : List Char} (h : Written c cs) (rest : List Char) :
    stringBody? (cs ++ rest) = (stringBody? rest).map (consBody c) := by
  cases h with
  | escape hletter he _ => exact stringBody?_escape rest hletter he
  | unit hcontrol =>
      have hchar := stringBody?_unit rest (unit?_hexDigit c.toNat hcontrol) (by omega)
      rwa [Char.ofNat_toNat] at hchar
  | plain hmark hslash hprintable => exact stringBody?_plain rest hmark hslash hprintable

/-- A string is read as it was written, up to its closing mark. -/
theorem stringBody?_flatMap (cs rest : List Char) :
    stringBody? (cs.flatMap escapeChar ++ '"' :: rest) = some (cs, rest) := by
  induction cs with
  | nil => rfl
  | cons c cs ih =>
      rw [List.flatMap_cons, List.append_assoc, (written_escapeChar c).stringBody?_append, ih]
      rfl

/-- The text of a string is one line. -/
theorem printable_quoted (s : String) : Printable (quoted s).toList := by
  have hbody : Printable (s.toList.flatMap escapeChar) := by
    intro c hc
    obtain ⟨d, -, hc⟩ := List.mem_flatMap.mp hc
    exact (written_escapeChar d).printable c hc
  rw [quoted, String.toList_ofList]
  simpa using hbody

end BalanceSheet.Json
