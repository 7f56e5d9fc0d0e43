import BalanceSheet.Decimal
import BalanceSheet.Text.Basic
import BalanceSheet.Text.Bytes

/-!
Small facts about texts: letters and their lower case, cuts, and numbers as runs of digits.
-/

namespace BalanceSheet.Text

/-! ### Letters

Lower case changes capital letters and one foreign sign, and makes small letters of them; whatever has no small
letter in it is the lower case of nothing else.
-/

theorem toNat_lt_of_isAlphanum {c : Char} (h : c.isAlphanum = true) : c.toNat < 128 := by
  delta Char.isAlphanum Char.isAlpha Char.isUpper Char.isLower Char.isDigit at h
  simp only [Bool.or_eq_true, Bool.and_eq_true, decide_eq_true_eq] at h
  rcases h with (⟨-, h⟩ | ⟨-, h⟩) | ⟨-, h⟩ <;> exact Nat.lt_of_le_of_lt h (by decide)

/-- Letters and digits are not blank. -/
theorem not_isBlank_of_isAlphanum {c : Char} (h : c.isAlphanum = true) : isBlank c = false := by
  have hall : ∀ n < 128, (Char.ofNat n).isAlphanum = true → isBlank (Char.ofNat n) = false := by decide
  have hascii := toNat_lt_of_isAlphanum h
  rw [← Char.ofNat_toNat c] at h ⊢
  exact hall _ hascii h

theorem isAlphanum_of_isUpper {c : Char} (h : c.isUpper = true) : c.isAlphanum = true := by
  delta Char.isAlphanum Char.isAlpha
  simp [h]

theorem lowerChar_eq_self_or (c : Char) : lowerChar c = c ∨ c = '\u212a' ∨ c.isUpper = true := by
  rw [lowerChar]
  split
  case isTrue h => exact .inr (.inl (by simpa using h))
  case isFalse =>
    delta Char.toLower Char.isUpper
    split
    case isTrue h => exact .inr (.inr (by simpa using h))
    case isFalse => exact .inl rfl

theorem isLower_lowerChar {c : Char} (h : c.isUpper = true) : (lowerChar c).isLower = true := by
  have hall : ∀ n < 128, (Char.ofNat n).isUpper = true → (lowerChar (Char.ofNat n)).isLower = true := by decide
  have hascii : c.toNat < 128 := toNat_lt_of_isAlphanum (isAlphanum_of_isUpper h)
  rw [← Char.ofNat_toNat c] at h ⊢
  exact hall _ hascii h

/-- What is no small letter is the lower case of itself alone. -/
theorem eq_of_lowerChar {c d : Char} (h : lowerChar c = d) (hd : d.isLower = false) : c = d := by
  rcases lowerChar_eq_self_or c with hself | rfl | hupper
  · exact hself.symm.trans h
  · exact absurd (h ▸ hd) (by decide)
  · rw [← h, isLower_lowerChar hupper] at hd
    cases hd

/-- Blanks are as they are in lower case. -/
theorem lowerChar_of_isBlank {c : Char} (h : isBlank c = true) : lowerChar c = c := by
  rcases lowerChar_eq_self_or c with hself | rfl | hupper
  · exact hself
  · exact absurd h (by decide)
  · rw [not_isBlank_of_isAlphanum (isAlphanum_of_isUpper hupper)] at h
    cases h

theorem mem_lower {s : String} {c : Char} (h : c ∈ s.toList) : lowerChar c ∈ (lower s).toList := by
  rw [lower, String.toList_ofList]
  exact List.mem_map_of_mem h

/-- A text without small letters is the lower case of itself alone. -/
theorem eq_of_lower {s t : String} (h : lower s = t) (ht : ∀ c ∈ t.toList, c.isLower = false) : s = t := by
  have hmap : s.toList.map lowerChar = t.toList := by rw [← h, lower, String.toList_ofList]
  have hself : ∀ c ∈ s.toList, lowerChar c = id c := by
    intro c hc
    have hmem : lowerChar c ∈ t.toList := hmap ▸ List.mem_map_of_mem hc
    exact (eq_of_lowerChar rfl (ht _ hmem)).symm
  rw [List.map_congr_left hself, List.map_id] at hmap
  exact String.ext hmap

/-! ### Cuts

A text is cut at its first separator, and only there; what has nothing to drop stays as it is, and a start that
has nothing to drop keeps what follows it in place.
-/

section

variable {sep : Char}

/-- A cut finds the first separator. -/
theorem cut_append {before : List Char} (h : sep ∉ before) (after : List Char) :
    cut sep (before ++ sep :: after) = some (before, after) := by
  induction before with
  | nil => simp [cut]
  | cons c before ih =>
      rw [List.mem_cons, not_or] at h
      rw [List.cons_append, cut, if_neg (Ne.symm h.1), ih h.2]
      rfl

/-- A text is not cut where it has no separator. -/
theorem cut_eq_none_iff {cs : List Char} : cut sep cs = none ↔ sep ∉ cs := by
  induction cs with
  | nil => simp [cut]
  | cons c cs ih =>
      rw [cut, List.mem_cons, not_or]
      split
      case isTrue h => simp [h]
      case isFalse h => simp [ih, Ne.symm h]

theorem ne_of_not_mem {cs : List Char} (h : sep ∉ cs) : ∀ c ∈ cs, decide (c ≠ sep) = true :=
  fun _ hc => decide_eq_true fun heq => h (heq ▸ hc)

/-- What a cut leaves before the separator is found by taking up to it. -/
theorem before_of_cut {cs before after : List Char} (h : cut sep cs = some (before, after)) :
    (cs.takeWhile fun c => c ≠ sep) = before := by
  obtain ⟨rfl, hbefore⟩ := eq_of_cut h
  rw [List.takeWhile_append_of_pos (ne_of_not_mem hbefore), List.takeWhile_cons_of_neg (by simp), List.append_nil]

/-- What a cut leaves behind the separator is found by dropping up to it. -/
theorem after_of_cut {cs before after : List Char} (h : cut sep cs = some (before, after)) :
    (cs.dropWhile fun c => c ≠ sep).drop 1 = after := by
  obtain ⟨rfl, hbefore⟩ := eq_of_cut h
  rw [List.dropWhile_append_of_pos (ne_of_not_mem hbefore), List.dropWhile_cons_of_neg (by simp)]
  rfl

end

theorem dropEnding?_append (ending front : List Char) : dropEnding? ending (front ++ ending) = some front := by
  simp [dropEnding?, endsWith, List.isPrefixOf_iff_prefix]

theorem dropEnding?_eq_none {c : Char} {cs : List Char} (h : c ∉ cs) : dropEnding? [c] cs = none := by
  refine if_neg ?_
  rw [endsWith, List.isPrefixOf_iff_prefix]
  rintro ⟨front, heq⟩
  have hmem : c ∈ cs.reverse := heq ▸ List.mem_append_left front List.mem_cons_self
  exact h (List.mem_reverse.mp hmem)

section

variable {p q : Char → Bool} {cs : List Char}

theorem dropWhile_eq_self (h : ∀ c ∈ cs, p c = false) : cs.dropWhile p = cs := by
  cases cs with
  | nil => rfl
  | cons c cs => exact List.dropWhile_cons_of_neg (by simp [h])

/-- Dropping at the end leaves a start that has nothing to drop. -/
theorem dropWhile_append_eq (h : ∀ c ∈ cs, p c = false) (front : List Char) :
    (front ++ cs).dropWhile p = front.dropWhile p ++ cs := by
  induction front with
  | nil => exact dropWhile_eq_self h
  | cons c front ih =>
      rw [List.cons_append, List.dropWhile_cons, List.dropWhile_cons]
      split
      · exact ih
      · rfl

/-- Dropping at the start and stopping at the first character of another kind may be done in either order. -/
theorem dropWhile_takeWhile (h : ∀ c, p c = true → q c = true) :
    (cs.takeWhile q).dropWhile p = (cs.dropWhile p).takeWhile q := by
  induction cs with
  | nil => rfl
  | cons c cs ih =>
      by_cases hp : p c = true
      · rw [List.takeWhile_cons_of_pos (h c hp), List.dropWhile_cons_of_pos hp, ih,
          List.dropWhile_cons_of_pos hp]
      · rw [List.dropWhile_cons_of_neg hp, List.takeWhile_cons]
        split
        · exact List.dropWhile_cons_of_neg hp
        · rfl

end

/-- A text without blanks has none at its ends. -/
theorem trim_eq_self {s : String} (h : ∀ c ∈ s.toList, isBlank c = false) : trim s = s := by
  have hend : s.toList.reverse.dropWhile isBlank = s.toList.reverse := dropWhile_eq_self (by simpa using h)
  rw [trim, trimEnd, trimStart, dropWhile_eq_self h, hend, List.reverse_reverse, String.ofList_toList]

/-! ### Digits

A run is taken as far as its digits go, zero alone is written with a zero in front, and
the digits of a number are read as that number, in base ten and in base sixteen.
-/

/-- A run ends where another kind of character follows it. -/
theorem takeWhile_append_of_stop {p : Char → Bool} {cs rest : List Char} (hcs : ∀ c ∈ cs, p c = true)
    (hrest : ∀ c ∈ rest.head?, p c = false) :
    (cs ++ rest).takeWhile p = cs ∧ (cs ++ rest).dropWhile p = rest := by
  have hstop : rest.takeWhile p = [] ∧ rest.dropWhile p = rest := by
    cases rest with
    | nil => exact ⟨rfl, rfl⟩
    | cons c rest => simp [hrest c rfl]
  rw [List.takeWhile_append_of_pos hcs, List.dropWhile_append_of_pos hcs, hstop.1, hstop.2, List.append_nil]
  exact ⟨rfl, rfl⟩

/-! ### Base ten -/

theorem isDigit_of_mem_toDigits {n : Nat} {c : Char} (h : c ∈ Nat.toDigits 10 n) : c.isDigit = true :=
  Nat.isDigit_of_mem_toDigits (by decide) (by decide) h

/-- Only zero is written with a zero in front. -/
theorem eq_zero_of_head?_toDigits {n : Nat} (h : (Nat.toDigits 10 n).head? = some '0') : n = 0 := by
  have hdigit : ∀ n < 10, [Nat.digitChar n].head? = some '0' → n = 0 := by decide
  induction n using Nat.strongRecOn with
  | _ n ih =>
      by_cases hn : n < 10
      · rw [Nat.toDigits_of_lt_base hn] at h
        exact hdigit n hn h
      · rw [Nat.toDigits_of_base_le (by decide) (Nat.not_lt.mp hn), List.head?_append,
          List.head?_eq_some_head Nat.toDigits_ne_nil, Option.some_or, ← List.head?_eq_some_head] at h
        have hfront : n / 10 = 0 := ih (n / 10) (by omega) h
        omega

theorem digits?_toDigits (n : Nat) : Decimal.digits? (Nat.toDigits 10 n) = some n := by
  have hall : (Nat.toDigits 10 n).all Char.isDigit = true :=
    List.all_eq_true.mpr fun _ => isDigit_of_mem_toDigits
  have hvalue : Decimal.ofDigits (Nat.toDigits 10 n) = n := Nat.ofDigitChars_toDigits (by decide) (by decide)
  rw [Decimal.digits?, hall, hvalue]
  simp [Nat.toDigits_ne_nil]

/-! ### Base sixteen -/

theorem hexValue?_digitChar : ∀ d < 16, hexValue? (Nat.digitChar d) = some d := by decide

theorem isHex_of_isDigit {c : Char} (h : c.isDigit = true) : isHex c = true := by
  simp [isHex, hexValue?, h]

theorem isHex_of_mem_toDigits {n : Nat} {c : Char} (h : c ∈ Nat.toDigits 16 n) : isHex c = true := by
  have hdigit {d : Nat} (hd : d < 16) : isHex (Nat.digitChar d) = true := by rw [isHex, hexValue?_digitChar d hd]; rfl
  induction n using Nat.strongRecOn with
  | _ n ih =>
      by_cases hn : n < 16
      · rw [Nat.toDigits_of_lt_base hn, List.mem_singleton] at h
        exact h ▸ hdigit hn
      · rw [Nat.toDigits_of_base_le (by decide) (Nat.not_lt.mp hn), List.mem_append, List.mem_singleton] at h
        rcases h with h | rfl
        · exact ih (n / 16) (by omega) h
        · exact hdigit (Nat.mod_lt n (by decide))

theorem ofHex?_toDigits (n : Nat) : ofHex? (Nat.toDigits 16 n) = some n := by
  induction n using Nat.strongRecOn with
  | _ n ih =>
      by_cases hn : n < 16
      · simp [Nat.toDigits_of_lt_base hn, ofHex?, hexValue?_digitChar n hn]
      · have hfront : ofHex? (Nat.toDigits 16 (n / 16)) = some (n / 16) := ih (n / 16) (by omega)
        rw [ofHex?] at hfront
        rw [Nat.toDigits_of_base_le (by decide) (Nat.not_lt.mp hn), ofHex?, List.foldlM_append, hfront]
        simp [hexValue?_digitChar _ (Nat.mod_lt n (by decide)), Nat.div_add_mod]

end BalanceSheet.Text
