import BalanceSheet.Proofs.Text.Basic
import BalanceSheet.Proofs.Text.Utf8
import BalanceSheet.Url.Basic
import Mathlib.Data.List.Basic

/-!
Names with values come back from the query of an address. An escape gives back the byte that it was written
for, and no name and no value is written with one of the signs that stand between them.
-/

namespace BalanceSheet

namespace Percent

open Text (upperHexDigit)

theorem hexByte?_upperHexDigit : ∀ n < 16, hexByte? (.ofNat (upperHexDigit n).toNat) = some n := by decide

theorem isAlphanum_upperHexDigit : ∀ n < 16, (upperHexDigit n).isAlphanum = true := by decide

theorem utf8EncodeChar_of_lt {c : Char} (h : c.toNat < 0x80) : String.utf8EncodeChar c = [.ofNat c.toNat] :=
  if_pos (Nat.le_of_lt_succ h)

theorem utf8EncodeChar_upperHexDigit {n : Nat} (h : n < 16) :
    String.utf8EncodeChar (upperHexDigit n) = [.ofNat (upperHexDigit n).toNat] :=
  utf8EncodeChar_of_lt (Text.toNat_lt_of_isAlphanum (isAlphanum_upperHexDigit n h))

/-- An escape is read as the byte that it was written for. -/
theorem unescape_escapeByte (b : UInt8) (rest : List UInt8) :
    unescape (Utf8.encode (escapeByte b) ++ rest) = b :: unescape rest := by
  have hhigh : b.toNat / 16 < 16 := Nat.div_lt_of_lt_mul b.toNat_lt
  have hlow : b.toNat % 16 < 16 := Nat.mod_lt _ (by decide)
  have hbyte : (16 * (b.toNat / 16) + b.toNat % 16).toUInt8 = b := by
    rw [Nat.div_add_mod]
    exact UInt8.ofNat_toNat
  have hsign : String.utf8EncodeChar '%' = [0x25] := rfl
  simp only [Utf8.encode, escapeByte, List.flatMap_cons, List.flatMap_nil, hsign,
    utf8EncodeChar_upperHexDigit hhigh, utf8EncodeChar_upperHexDigit hlow, List.cons_append, List.nil_append]
  rw [unescape, hexByte?_upperHexDigit _ hhigh, hexByte?_upperHexDigit _ hlow]
  exact congrArg (· :: _) hbyte

theorem unescape_escapeBytes (bs rest : List UInt8) :
    unescape (Utf8.encode (bs.flatMap escapeByte) ++ rest) = bs ++ unescape rest := by
  induction bs with
  | nil => rfl
  | cons b bs ih =>
      rw [List.flatMap_cons, Utf8.encode, List.flatMap_append, List.append_assoc]
      exact (unescape_escapeByte b _).trans (congrArg (b :: ·) ih)

/-- A byte that starts no escape stands for itself. -/
theorem unescape_cons {b : UInt8} (h : b ≠ 0x25) (rest : List UInt8) :
    unescape (b :: rest) = b :: unescape rest := by
  rw [unescape]
  intro a b' rest' heq
  exact absurd heq h

end Percent

namespace Form

open Percent

theorem toNat_lt_of_isKept {c : Char} (h : isKept c = true) : c.toNat < 0x80 := by
  simp only [isKept, Bool.or_eq_true, decide_eq_true_eq] at h
  rcases h with (((h | rfl) | rfl) | rfl) | rfl
  · exact Text.toNat_lt_of_isAlphanum h
  all_goals decide

theorem ne_of_isKept {c sign : Char} (h : isKept c = true) (hsign : isKept sign = false) : c ≠ sign := by
  rintro rfl
  rw [h] at hsign
  cases hsign

/-- The characters of an escape are a percent sign and others that stand for themselves. -/
theorem kept_of_mem_escapeChar {c d : Char} (h : d ∈ escapeChar c) : d = '%' ∨ isKept d = true := by
  obtain ⟨b, -, hd⟩ := List.mem_flatMap.mp h
  have hkept {n : Nat} (hn : n < 16) : isKept (Text.upperHexDigit n) = true := by
    simp [isKept, isAlphanum_upperHexDigit n hn]
  simp only [escapeByte, List.mem_cons, List.not_mem_nil, or_false] at hd
  rcases hd with rfl | rfl | rfl
  · exact .inl rfl
  · exact .inr (hkept (Nat.div_lt_of_lt_mul b.toNat_lt))
  · exact .inr (hkept (Nat.mod_lt _ (by decide)))

/-- The signs that stand between names and values are in neither. -/
theorem not_mem_encode {sign : Char} (hsign : sign = '&' ∨ sign = '=') (s : String) : sign ∉ encode s := by
  intro h
  obtain ⟨c, -, h⟩ := List.mem_flatMap.mp h
  have hcases : sign = '+' ∨ sign = '%' ∨ isKept sign = true := by
    rw [encodeChar] at h
    split at h
    · exact .inl (List.mem_singleton.mp h)
    · split at h
      case isTrue hkept => exact .inr (.inr (List.mem_singleton.mp h ▸ hkept))
      case isFalse => exact .inr (kept_of_mem_escapeChar h)
  revert hcases
  rcases hsign with rfl | rfl <;> decide

/-- The bytes of a character that is written in the query are those of the character. -/
theorem unescape_encodeChar (c : Char) (rest : List UInt8) :
    unescape (Utf8.encode ((encodeChar c).map plusToBlank) ++ rest) =
      String.utf8EncodeChar c ++ unescape rest := by
  rw [encodeChar]
  split
  case isTrue h =>
    subst h
    exact unescape_cons (by decide) rest
  case isFalse =>
    split
    case isTrue h =>
      have hplus : plusToBlank c = c := if_neg (ne_of_isKept h (by decide))
      have hbyte : UInt8.ofNat c.toNat ≠ 0x25 := by
        intro heq
        have hlt : c.toNat < UInt8.size := Nat.lt_trans (toNat_lt_of_isKept h) (by decide)
        have hnat : c.toNat = '%'.toNat := (UInt8.toNat_ofNat_of_lt' hlt).symm.trans (congrArg UInt8.toNat heq)
        exact ne_of_isKept h (by decide) (Char.toNat_inj.mp hnat)
      simp only [List.map_cons, List.map_nil, hplus, Utf8.encode, List.flatMap_cons, List.flatMap_nil,
        utf8EncodeChar_of_lt (toNat_lt_of_isKept h), List.append_nil]
      exact unescape_cons hbyte rest
    case isFalse =>
      have hplus : (escapeChar c).map plusToBlank = escapeChar c := by
        refine (List.map_congr_left fun d hd => ?_).trans (List.map_id _)
        rcases kept_of_mem_escapeChar hd with rfl | hkept
        · rfl
        · exact if_neg (ne_of_isKept hkept (by decide))
      rw [hplus]
      exact unescape_escapeBytes _ rest

/-- What is written of a text in the query is read as that text. -/
theorem decode_encode (s : String) : decode (encode s) = s := by
  have hbytes (cs : List Char) :
      unescape (Utf8.encode ((cs.flatMap encodeChar).map plusToBlank)) = Utf8.encode cs := by
    induction cs with
    | nil => rfl
    | cons c cs ih =>
        rw [List.flatMap_cons, List.map_append, Utf8.encode, List.flatMap_append]
        exact (unescape_encodeChar c _).trans (congrArg (_ ++ ·) ih)
  rw [decode, Percent.bytes, encode, hbytes, Utf8.decode_encode, String.ofList_toList]

theorem decodePair_encodePair (pair : String × String) : decodePair (encodePair pair) = pair := by
  rw [decodePair, encodePair, Text.cut_append (not_mem_encode (.inr rfl) pair.1)]
  simp only [decode_encode]

/-- Pairs written in the query are read back, whatever their names and values. -/
theorem decodePairs_encodePairs (pairs : List (String × String)) : decodePairs (encodePairs pairs) = pairs := by
  cases pairs with
  | nil => rfl
  | cons pair pairs =>
      have hsign : ∀ cs ∈ (pair :: pairs).map encodePair, '&' ∉ cs := by
        intro cs hcs
        obtain ⟨pair, -, rfl⟩ := List.mem_map.mp hcs
        simp [encodePair, not_mem_encode]
      have hne : ∀ cs ∈ (pair :: pairs).map encodePair, (!cs.isEmpty) = true := by
        intro cs hcs
        obtain ⟨pair, -, rfl⟩ := List.mem_map.mp hcs
        simp [encodePair]
      rw [decodePairs, encodePairs, List.splitOn_intercalate '&' hsign (by simp), List.filter_eq_self.mpr hne,
        List.map_map]
      exact List.map_id'' decodePair_encodePair _

end Form
end BalanceSheet
