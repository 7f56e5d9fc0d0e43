import BalanceSheet.Text.Bytes
import Mathlib.Tactic.IntervalCases

/-!
Texts come back from their bytes. The first byte of a character tells how many follow and where the second may
lie, and each of them adds six binary digits to the number of the character.
-/

namespace BalanceSheet.Utf8

theorem lead_of_lt {n : Nat} (h : n < 0x80) : lead (.ofNat n) = .char (Char.ofNat n) := by
  interval_cases n <;> rfl

/-- The first of two bytes. -/
theorem lead_two {n : Nat} (h : 2 ≤ n) (h' : n < 32) :
    lead (.ofNat (n + 0xc0)) = .start ⟨n, 1, 0x80, 0xbf⟩ := by
  interval_cases n <;> rfl

/-- The first of three bytes. -/
theorem lead_three {n : Nat} (h : n < 16) : lead (.ofNat (n + 0xe0)) =
    .start ⟨n, 2, if n = 0 then 0xa0 else 0x80, if n = 13 then 0x9f else 0xbf⟩ := by
  interval_cases n <;> rfl

/-- The first of four bytes. -/
theorem lead_four {n : Nat} (h : n < 5) : lead (.ofNat (n + 0xf0)) =
    .start ⟨n, 3, if n = 0 then 0x90 else 0x80, if n = 4 then 0x8f else 0xbf⟩ := by
  interval_cases n <;> rfl

private theorem toNat_next {n : Nat} (h : n < 64) : (UInt8.ofNat (n + 0x80)).toNat = n + 0x80 :=
  UInt8.toNat_ofNat_of_lt' (Nat.lt_of_lt_of_le (Nat.add_lt_add_right h 0x80) (by decide))

section

variable {value missing n : Nat} {least most : UInt8} (hn : n < 64) (hleast : least.toNat ≤ n + 0x80)
  (hmost : n + 0x80 ≤ most.toNat) (bs : List UInt8)

include hn hleast hmost

private theorem within_bounds : (least ≤ .ofNat (n + 0x80) && .ofNat (n + 0x80) ≤ most) = true := by
  rw [Bool.and_eq_true, decide_eq_true_eq, decide_eq_true_eq, UInt8.le_iff_toNat_le, UInt8.le_iff_toNat_le,
    toNat_next hn]
  exact ⟨hleast, hmost⟩

/-- The last byte of a character. -/
theorem decodeFrom_last : decodeFrom (some ⟨value, 1, least, most⟩) (.ofNat (n + 0x80) :: bs) =
    Char.ofNat (64 * value + n) :: decodeFrom none bs := by
  rw [decodeFrom, if_pos (within_bounds hn hleast hmost), toNat_next hn, Nat.add_sub_cancel]
  rfl

/-- A byte of a character that is not the last. -/
theorem decodeFrom_more :
    decodeFrom (some ⟨value, missing + 2, least, most⟩) (.ofNat (n + 0x80) :: bs) =
      decodeFrom (some ⟨64 * value + n, missing + 1, 0x80, 0xbf⟩) bs := by
  rw [decodeFrom, if_pos (within_bounds hn hleast hmost), toNat_next hn, Nat.add_sub_cancel]
  rfl

end

section

variable {v : Nat} (bs : List UInt8)

private theorem decodeFrom_two (h : 0x7f < v) (h' : v ≤ 0x7ff) :
    decodeFrom none (.ofNat (v / 64 % 32 + 0xc0) :: .ofNat (v % 64 + 0x80) :: bs) =
      Char.ofNat v :: decodeFrom none bs := by
  have hvalue : 64 * (v / 64 % 32) + v % 64 = v := by omega
  rw [decodeFrom, lead_two (by omega) (by omega)]
  dsimp only
  rw [decodeFrom_last (by omega) (Nat.le_add_left _ _) (show v % 64 + 0x80 ≤ 0xbf by omega), hvalue]

private theorem decodeFrom_three (h : 0x7ff < v) (h' : v ≤ 0xffff) (hvalid : v < 0xd800 ∨ 0xdfff < v) :
    decodeFrom none (.ofNat (v / 4096 % 16 + 0xe0) :: .ofNat (v / 64 % 64 + 0x80) ::
        .ofNat (v % 64 + 0x80) :: bs) = Char.ofNat v :: decodeFrom none bs := by
  have hvalue : 64 * (64 * (v / 4096 % 16) + v / 64 % 64) + v % 64 = v := by omega
  rw [decodeFrom, lead_three (by omega)]
  dsimp only
  rw [decodeFrom_more (by omega),
    decodeFrom_last (by omega) (Nat.le_add_left _ _) (show v % 64 + 0x80 ≤ 0xbf by omega), hvalue]
  -- the second byte is bounded where fewer bytes would do, and where surrogates would be written
  · split
    · show 0xa0 ≤ _
      omega
    · exact Nat.le_add_left _ _
  · split
    · show _ ≤ 0x9f
      omega
    · show _ ≤ 0xbf
      omega

private theorem decodeFrom_four (h : 0xffff < v) (h' : v < 0x110000) :
    decodeFrom none (.ofNat (v / 262144 % 8 + 0xf0) :: .ofNat (v / 4096 % 64 + 0x80) ::
        .ofNat (v / 64 % 64 + 0x80) :: .ofNat (v % 64 + 0x80) :: bs) = Char.ofNat v :: decodeFrom none bs := by
  have hvalue : 64 * (64 * (64 * (v / 262144 % 8) + v / 4096 % 64) + v / 64 % 64) + v % 64 = v := by omega
  rw [decodeFrom, lead_four (by omega)]
  dsimp only
  rw [decodeFrom_more (by omega),
    decodeFrom_more (by omega) (Nat.le_add_left _ _) (show v / 64 % 64 + 0x80 ≤ 0xbf by omega),
    decodeFrom_last (by omega) (Nat.le_add_left _ _) (show v % 64 + 0x80 ≤ 0xbf by omega), hvalue]
  -- the second byte is bounded where fewer bytes would do, and where there are no more characters
  · split
    · show 0x90 ≤ _
      omega
    · exact Nat.le_add_left _ _
  · split
    · show _ ≤ 0x8f
      omega
    · show _ ≤ 0xbf
      omega

end

/-- The bytes of a character are read as that character. -/
theorem decodeFrom_utf8EncodeChar (c : Char) (bs : List UInt8) :
    decodeFrom none (String.utf8EncodeChar c ++ bs) = c :: decodeFrom none bs := by
  have hvalid : c.val.toNat < 0xd800 ∨ 0xdfff < c.val.toNat ∧ c.val.toNat < 0x110000 := c.valid
  have hback : Char.ofNat c.val.toNat = c := Char.ofNat_toNat c
  unfold String.utf8EncodeChar
  generalize c.val.toNat = v at hvalid hback ⊢
  subst hback
  dsimp only
  split
  case isTrue hone => rw [List.singleton_append, decodeFrom, lead_of_lt (by omega)]
  case isFalse hone =>
    split
    case isTrue htwo => exact decodeFrom_two bs (by omega) htwo
    case isFalse htwo =>
      split
      case isTrue hthree => exact decodeFrom_three bs (by omega) hthree (by omega)
      case isFalse hthree => exact decodeFrom_four bs (by omega) (by omega)

theorem decode_encode (cs : List Char) : decode (encode cs) = cs := by
  induction cs with
  | nil => rfl
  | cons c cs ih => 
      rw [decode, encode, List.flatMap_cons, decodeFrom_utf8EncodeChar]
      exact congrArg (c :: ·) ih

end BalanceSheet.Utf8
