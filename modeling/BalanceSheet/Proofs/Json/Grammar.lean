import BalanceSheet.Json.Parser
import Mathlib.Data.List.Induction
import Mathlib.Data.List.TakeWhile

/-!
The texts of JSON values, and that only they are read. What the reader takes off the front of a text is the text of
a value: the leaves come first, strings by their escapes and numbers by their parts, and then the brackets, level by
level, as the reader spends its steps.
-/

namespace BalanceSheet.Json

/-! ### Texts -/

/-- What may stand between the parts of a text. -/
def Blanks (cs : List Char) : Prop := ∀ c ∈ cs, isSpace c = true

/-- What stands between the marks of a string: characters as themselves, by a letter, or by a number. -/
inductive IsInside : List Char → Prop where
  | nil : IsInside []
  | plain {c : Char} {cs : List Char} (hmark : c ≠ '"') (hslash : c ≠ '\\') (hprintable : 32 ≤ c.toNat)
      (h : IsInside cs) : IsInside (c :: cs)
  | letter {e : Char} {cs : List Char} (he : e ∈ ['"', '\\', '/', 'b', 'f', 'n', 'r', 't']) (h : IsInside cs) :
      IsInside ('\\' :: e :: cs)
  | unit {a b c d : Char} {cs : List Char} (hdigits : ∀ x ∈ [a, b, c, d], Text.isHex x = true) (h : IsInside cs) :
      IsInside ('\\' :: 'u' :: a :: b :: c :: d :: cs)

inductive IsString : List Char → Prop where
  | quoted {cs : List Char} (h : IsInside cs) : IsString ('"' :: cs ++ ['"'])

def Digits (cs : List Char) : Prop := cs ≠ [] ∧ ∀ c ∈ cs, c.isDigit = true

inductive IsFraction : List Char → Prop where
  | none : IsFraction []
  | digits {ds : List Char} (h : Digits ds) : IsFraction ('.' :: ds)

inductive IsExponent : List Char → Prop where
  | none : IsExponent []
  | digits {e : Char} {sign ds : List Char} (he : e = 'e' ∨ e = 'E') (hsign : sign ∈ [[], ['+'], ['-']])
      (h : Digits ds) : IsExponent (e :: sign ++ ds)

/-- A number without a sign, with no needless zero in front. -/
inductive IsMagnitude : List Char → Prop where
  | parts {whole fraction exponent : List Char} (hwhole : Digits whole)
      (hzero : whole.head? = some '0' → whole = ['0']) (hfraction : IsFraction fraction)
      (hexponent : IsExponent exponent) : IsMagnitude (whole ++ fraction ++ exponent)

mutual

inductive IsValue : List Char → Prop where
  | null : IsValue "null".toList
  | true : IsValue "true".toList
  | false : IsValue "false".toList
  | string {cs : List Char} (h : IsString cs) : IsValue cs
  | natural {cs : List Char} (h : IsMagnitude cs) : IsValue cs
  | negative {cs : List Char} (h : IsMagnitude cs) : IsValue ('-' :: cs)
  | emptyArray {gap : List Char} (h : Blanks gap) : IsValue ('[' :: gap ++ [']'])
  | array {items : List (List Char)} (h : ∀ item ∈ items, IsItem item) :
      IsValue ('[' :: [','].intercalate items ++ [']'])
  | object {cs : List Char} (h : IsObject cs) : IsValue cs

inductive IsObject : List Char → Prop where
  | empty {gap : List Char} (h : Blanks gap) : IsObject ('\x7b' :: gap ++ ['\x7d'])
  | members {members : List (List Char)} (h : ∀ member ∈ members, IsMember member) :
      IsObject ('\x7b' :: [','].intercalate members ++ ['\x7d'])

/-- A value with blanks around it. -/
inductive IsItem : List Char → Prop where
  | spaced {lead cs trail : List Char} (hlead : Blanks lead) (h : IsValue cs) (htrail : Blanks trail) :
      IsItem (lead ++ cs ++ trail)

/-- A key with blanks around it, and a value with blanks around it. -/
inductive IsMember : List Char → Prop where
  | keyed {lead key gap item : List Char} (hlead : Blanks lead) (hkey : IsString key) (hgap : Blanks gap)
      (h : IsItem item) : IsMember (lead ++ key ++ gap ++ ':' :: item)

end

/-- The text of an object, with blanks around it. -/
def IsObjectText (line : List Char) : Prop :=
  ∃ lead object trail, line = lead ++ object ++ trail ∧ Blanks lead ∧ IsObject object ∧ Blanks trail

/-- The text before the rest is of a kind. -/
def Starts (P : List Char → Prop) (cs rest : List Char) : Prop := ∃ front, cs = front ++ rest ∧ P front

theorem starts_of_skipSpace {cs rest : List Char} (h : skipSpace cs = rest) : Starts Blanks cs rest :=
  ⟨cs.takeWhile isSpace, h ▸ List.takeWhile_append_dropWhile.symm, fun _ => List.mem_takeWhile_imp⟩

/-! ### Strings -/

section

variable {cs rest : List Char}

theorem Starts.plain {c : Char} (hmark : c ≠ '"') (hslash : c ≠ '\\') (hprintable : 32 ≤ c.toNat)
    (h : Starts IsInside cs rest) : Starts IsInside (c :: cs) rest := by
  obtain ⟨front, rfl, hfront⟩ := h
  exact ⟨c :: front, rfl, .plain hmark hslash hprintable hfront⟩

theorem Starts.letter {e c : Char} (he : escape? e = some c) (h : Starts IsInside cs rest) :
    Starts IsInside ('\\' :: e :: cs) rest := by
  obtain ⟨front, rfl, hfront⟩ := h
  refine ⟨'\\' :: e :: front, rfl, .letter ?_ hfront⟩
  unfold escape? at he
  split at he
  case h_9 => cases he
  all_goals simp

theorem isHex_of_unit? {a b c d : Char} {n : Nat} (h : unit? a b c d = some n) :
    ∀ x ∈ [a, b, c, d], Text.isHex x = true := by
  have hdigit {ds : List Char} {m n : Nat} (h : ds.foldlM (fun n c => (Text.hexValue? c).map (16 * n + ·)) m = some n) :
      ∀ x ∈ ds, Text.isHex x = true := by
    induction ds generalizing m with
    | nil => exact List.forall_mem_nil _
    | cons d ds ih =>
        rw [List.foldlM_cons] at h
        obtain ⟨next, hnext, h⟩ := Option.bind_eq_some_iff.mp h
        obtain ⟨value, hvalue, -⟩ := Option.map_eq_some_iff.mp hnext
        exact List.forall_mem_cons.mpr ⟨by rw [Text.isHex, hvalue]; rfl, ih h⟩
  exact hdigit h

theorem Starts.unit {a b c d : Char} {n : Nat} (hunit : unit? a b c d = some n) (h : Starts IsInside cs rest) :
    Starts IsInside ('\\' :: 'u' :: a :: b :: c :: d :: cs) rest := by
  obtain ⟨front, rfl, hfront⟩ := h
  exact ⟨'\\' :: 'u' :: a :: b :: c :: d :: front, rfl, .unit (isHex_of_unit? hunit) hfront⟩

theorem exists_of_map_cons {c : Char} {read : Option (List Char × List Char)} {body : List Char}
    (h : (read.map fun (body, after) => (c :: body, after)) = some (body, rest)) :
    ∃ inner, read = some (inner, rest) := by
  obtain ⟨⟨inner, after⟩, hread, heq⟩ := Option.map_eq_some_iff.mp h
  cases heq
  exact ⟨inner, hread⟩

/-- A string is read up to its closing mark. -/
theorem starts_stringBody? {body : List Char} (h : stringBody? cs = some (body, rest)) :
    Starts IsInside cs ('"' :: rest) := by
  fun_induction stringBody? cs generalizing body rest
  case case1 => cases h
  case case2 =>
    cases h
    exact ⟨[], rfl, .nil⟩
  case case3 hlow hhigh _ _ ih =>
    obtain ⟨inner, hread⟩ := exists_of_map_cons h
    exact .unit hhigh (.unit hlow (ih hread))
  case case4 => cases h
  case case5 => cases h
  case case6 hunit _ _ ih =>
    obtain ⟨inner, hread⟩ := exists_of_map_cons h
    exact .unit hunit (ih hread)
  case case7 => cases h
  case case8 => cases h
  case case9 hunit _ ih =>
    obtain ⟨inner, hread⟩ := exists_of_map_cons h
    exact .unit hunit (ih hread)
  case case10 => cases h
  case case11 he ih =>
    obtain ⟨inner, hread⟩ := exists_of_map_cons h
    exact .letter he (ih hread)
  case case12 => cases h
  case case13 => cases h
  case case14 c cs hmark _ _ hescape hcontrol ih =>
    obtain ⟨inner, hread⟩ := exists_of_map_cons h
    have hslash : c ≠ '\\' := by
      intro hc
      cases cs with
      | nil => cases hread
      | cons e cs => exact hescape e cs hc rfl
    exact .plain hmark hslash (Nat.not_lt.mp hcontrol) (ih hread)

end

/-! ### Numbers -/

section

variable {cs rest : List Char}

theorem Starts.digits (h : ¬ (cs.takeWhile Char.isDigit).isEmpty = true) :
    Starts Digits cs (cs.dropWhile Char.isDigit) :=
  ⟨cs.takeWhile Char.isDigit, List.takeWhile_append_dropWhile.symm, by simpa using h,
    fun _ => List.mem_takeWhile_imp⟩

theorem starts_fraction? {ds : List Char} (h : fraction? cs = some (ds, rest)) : Starts IsFraction cs rest := by
  unfold fraction? at h
  split at h
  case h_1 cs =>
    obtain ⟨hdigits, heq⟩ := Option.ite_none_left_eq_some.mp h
    cases heq
    obtain ⟨front, hcs, hfront⟩ := Starts.digits hdigits
    exact ⟨'.' :: front, congrArg _ hcs, .digits hfront⟩
  case h_2 =>
    cases h
    exact ⟨[], rfl, .none⟩

theorem starts_signedDigits? {negative : Bool} {n : Option Int} (h : signedDigits? negative cs = some (n, rest)) :
    Starts Digits cs rest := by
  obtain ⟨hdigits, heq⟩ := Option.ite_none_left_eq_some.mp h
  cases heq
  exact Starts.digits hdigits

theorem starts_exponent? {n : Option Int} (h : exponent? cs = some (n, rest)) : Starts IsExponent cs rest := by
  have hsigned {e : Char} {ds : List Char} (he : e = 'e' ∨ e = 'E') (sign : List Char)
      (hsign : sign ∈ [[], ['+'], ['-']]) (hds : Starts Digits ds rest) : Starts IsExponent (e :: sign ++ ds) rest := by
    obtain ⟨front, rfl, hfront⟩ := hds
    exact ⟨e :: sign ++ front, by simp, .digits he hsign hfront⟩
  unfold exponent? at h
  split at h
  case h_1 =>
    cases h
    exact ⟨[], rfl, .none⟩
  case h_2 c cs =>
    split at h
    case isTrue he =>
      replace he : c = 'e' ∨ c = 'E' := by simpa using he
      split at h
      case h_1 => exact hsigned he ['-'] (by simp) (starts_signedDigits? h)
      case h_2 => exact hsigned he ['+'] (by simp) (starts_signedDigits? h)
      case h_3 => exact hsigned he [] (by simp) (starts_signedDigits? h)
    case isFalse =>
      cases h
      exact ⟨[], rfl, .none⟩

/-- A number is read to the end of its last part. -/
theorem starts_number? {negative : Bool} {n : JsonNumber} (h : number? negative cs = some (n, rest)) :
    Starts IsMagnitude cs rest := by
  obtain ⟨hwhole, h⟩ := Option.ite_none_left_eq_some.mp h
  obtain ⟨⟨fraction, afterPoint⟩, hfraction, h⟩ := Option.bind_eq_some_iff.mp h
  obtain ⟨⟨exponent, after⟩, hexponent, h⟩ := Option.bind_eq_some_iff.mp h
  -- whether the digits are kept as an integer or scaled, the text ends after the exponent
  have hafter : after = rest := by
    dsimp only at h
    split at h
    case isTrue =>
      cases h
      rfl
    case isFalse =>
      obtain ⟨x, -, heq⟩ := Option.bind_eq_some_iff.mp h
      cases heq
      rfl
  subst hafter
  simp only [Bool.or_eq_true, Bool.and_eq_true, decide_eq_true_eq, not_or, not_and, Nat.not_lt] at hwhole
  obtain ⟨hdigits, hfront⟩ := hwhole
  have hzero (h : (cs.takeWhile Char.isDigit).head? = some '0') : cs.takeWhile Char.isDigit = ['0'] := by
    obtain ⟨ds, hds⟩ := List.head?_eq_some_iff.mp h
    have hlength := hfront h
    rw [hds, List.length_cons] at hlength
    rw [hds, List.length_eq_zero_iff.mp (by omega : ds.length = 0)]
  obtain ⟨middle, hmiddle, hisFraction⟩ := starts_fraction? hfraction
  obtain ⟨last, hlast, hisExponent⟩ := starts_exponent? hexponent
  refine ⟨cs.takeWhile Char.isDigit ++ middle ++ last, ?_, .parts ⟨?_, ?_⟩ hzero hisFraction hisExponent⟩
  · rw [List.append_assoc, List.append_assoc, ← hlast, ← hmiddle, List.takeWhile_append_dropWhile]
  · simpa using hdigits
  · exact fun _ => List.mem_takeWhile_imp

end

/-! ### Lists -/

/-- Texts with commas between them, at least one, and the closing bracket. -/
def IsList (P : List Char → Prop) (close : Char) (text : List Char) : Prop :=
  ∃ first others, text = [','].intercalate (first :: others) ++ [close] ∧ P first ∧ ∀ other ∈ others, P other

section

variable {P : List Char → Prop} {close : Char} {cs text : List Char}

theorem IsList.last (h : P text) : IsList P close (text ++ [close]) :=
  ⟨text, [], by simp, h, List.forall_mem_nil _⟩

theorem IsList.more (h : P cs) (htext : IsList P close text) : IsList P close (cs ++ ',' :: text) := by
  obtain ⟨first, others, rfl, hfirst, hothers⟩ := htext
  refine ⟨cs, first :: others, ?_, h, List.forall_mem_cons.mpr ⟨hfirst, hothers⟩⟩
  rw [List.intercalate_cons_cons]
  simp

theorem IsList.spaced (hspaced : ∀ {text}, P text → P (cs ++ text)) (htext : IsList P close text) :
    IsList P close (cs ++ text) := by
  obtain ⟨first, others, rfl, hfirst, hothers⟩ := htext
  refine ⟨cs ++ first, others, ?_, hspaced hfirst, hothers⟩
  cases others with
  | nil => simp
  | cons next others =>
      rw [List.intercalate_cons_cons, List.intercalate_cons_cons]
      simp

end

theorem Blanks.append {cs cs' : List Char} (h : Blanks cs) (h' : Blanks cs') : Blanks (cs ++ cs') :=
  List.forall_mem_append.mpr ⟨h, h'⟩

theorem blanks_nil : Blanks [] := List.forall_mem_nil _

theorem IsValue.isItem {cs trail : List Char} (h : IsValue cs) (htrail : Blanks trail) : IsItem (cs ++ trail) :=
  .spaced blanks_nil h htrail

theorem IsString.isMember {key gap item : List Char} (hkey : IsString key) (hgap : Blanks gap) (hitem : IsItem item) :
    IsMember (key ++ gap ++ ':' :: item) :=
  .keyed blanks_nil hkey hgap hitem

theorem IsItem.spaced_append {lead text : List Char} (hlead : Blanks lead) (h : IsItem text) :
    IsItem (lead ++ text) := by
  obtain @⟨lead', cs, trail, hlead', hvalue, htrail⟩ := h
  simpa using IsItem.spaced (hlead.append hlead') hvalue htrail

theorem IsMember.spaced_append {lead text : List Char} (hlead : Blanks lead) (h : IsMember text) :
    IsMember (lead ++ text) := by
  obtain @⟨lead', key, gap, item, hlead', hkey, hgap, hitem⟩ := h
  simpa using IsMember.keyed (hlead.append hlead') hkey hgap hitem

/-! ### The reader -/

/-- The texts of a value of this kind. -/
def Spells : Json → List Char → Prop
  | .members _ => IsObject
  | _ => IsValue

theorem Spells.isValue {value : Json} {text : List Char} (h : Spells value text) : IsValue text := by
  cases value with
  | members entries => exact .object h
  | null | bool b | number n | string s | array items => exact h

theorem starts_word {word : String} {cs rest : List Char} {named value : Json}
    (h : (dropWord? word cs).map (fun after => (named, after)) = some (value, rest))
    (hword : Spells named word.toList) : Starts (Spells value) cs rest := by
  obtain ⟨after, hdrop, heq⟩ := Option.map_eq_some_iff.mp h
  cases heq
  obtain ⟨hstart, heq⟩ := Option.ite_none_right_eq_some.mp hdrop
  obtain ⟨rest, rfl⟩ := List.isPrefixOf_iff_prefix.mp hstart
  cases heq
  exact ⟨word.toList, by simp, hword⟩

/-- What is read within so many steps is spelled by what is taken off the text. -/
structure Sound (fuel : Nat) : Prop where
  value : ∀ {depth cs value rest}, value? fuel depth cs = some (value, rest) → Starts (Spells value) cs rest
  items : ∀ {depth cs items rest}, items? fuel depth cs = some (items, rest) → Starts (IsList IsItem ']') cs rest
  entries : ∀ {depth cs entries rest}, entries? fuel depth cs = some (entries, rest) →
    Starts (IsList IsMember '\x7d') cs rest

section

variable {fuel depth : Nat} {cs rest : List Char}

theorem Sound.starts_items? (h : Sound fuel) {items : List Json}
    (hread : items? (fuel + 1) depth cs = some (items, rest)) : Starts (IsList IsItem ']') cs rest := by
  rw [items?] at hread
  obtain ⟨⟨item, after⟩, hitem, hnext⟩ := Option.bind_eq_some_iff.mp hread
  obtain ⟨front, rfl, hfront⟩ := h.value hitem
  dsimp only at hnext
  split at hnext
  case h_1 hclose =>
    cases hnext
    obtain ⟨trail, rfl, htrail⟩ := starts_of_skipSpace hclose
    exact ⟨front ++ trail ++ [']'], by simp, .last (hfront.isValue.isItem htrail)⟩
  case h_2 more hcomma =>
    obtain ⟨⟨others, last⟩, hothers, heq⟩ := Option.bind_eq_some_iff.mp hnext
    cases heq
    obtain ⟨trail, rfl, htrail⟩ := starts_of_skipSpace hcomma
    obtain ⟨text, htext, hlist⟩ := h.items hothers
    obtain ⟨lead, rfl, hlead⟩ := starts_of_skipSpace htext
    refine ⟨front ++ trail ++ ',' :: (lead ++ text), by simp, .more (hfront.isValue.isItem htrail) ?_⟩
    exact hlist.spaced (.spaced_append hlead)
  case h_3 => cases hnext

theorem Sound.starts_entries? (h : Sound fuel) {entries : List (String × Json)}
    (hread : entries? (fuel + 1) depth cs = some (entries, rest)) : Starts (IsList IsMember '\x7d') cs rest := by
  unfold entries? at hread
  split at hread
  case h_2 => cases hread
  case h_1 inside =>
    obtain ⟨⟨key, afterKey⟩, hkey, hvalue⟩ := Option.bind_eq_some_iff.mp hread
    obtain ⟨body, rfl, hbody⟩ := starts_stringBody? hkey
    dsimp only at hvalue
    split at hvalue
    case h_2 => cases hvalue
    case h_1 afterColon hcolon =>
      obtain ⟨gap, rfl, hgap⟩ := starts_of_skipSpace hcolon
      obtain ⟨⟨value, after⟩, hvalue, hnext⟩ := Option.bind_eq_some_iff.mp hvalue
      obtain ⟨front, hfront, hspells⟩ := h.value hvalue
      obtain ⟨lead, rfl, hlead⟩ := starts_of_skipSpace hfront
      have hmember {trail : List Char} (htrail : Blanks trail) :
          IsMember ('"' :: body ++ ['"'] ++ gap ++ ':' :: (lead ++ front ++ trail)) :=
        (IsString.quoted hbody).isMember hgap (.spaced hlead hspells.isValue htrail)
      dsimp only at hnext
      split at hnext
      case h_1 hclose =>
        cases hnext
        obtain ⟨trail, rfl, htrail⟩ := starts_of_skipSpace hclose
        exact ⟨_, by simp, .last (hmember htrail)⟩
      case h_2 more hcomma =>
        obtain ⟨⟨others, last⟩, hothers, heq⟩ := Option.bind_eq_some_iff.mp hnext
        cases heq
        obtain ⟨trail, rfl, htrail⟩ := starts_of_skipSpace hcomma
        obtain ⟨text, htext, hlist⟩ := h.entries hothers
        obtain ⟨lead', rfl, hlead'⟩ := starts_of_skipSpace htext
        exact ⟨_, by simp, .more (hmember htrail) (hlist.spaced (.spaced_append hlead'))⟩
      case h_3 => cases hnext

theorem IsList.isValue {lead text : List Char} (h : IsList IsItem ']' text) (hlead : Blanks lead) :
    IsValue ('[' :: (lead ++ text)) := by
  obtain ⟨first, others, htext, hfirst, hothers⟩ := h.spaced (.spaced_append hlead)
  rw [htext]
  exact .array (List.forall_mem_cons.mpr ⟨hfirst, hothers⟩)

theorem IsList.isObject {lead text : List Char} (h : IsList IsMember '\x7d' text) (hlead : Blanks lead) :
    IsObject ('\x7b' :: (lead ++ text)) := by
  obtain ⟨first, others, htext, hfirst, hothers⟩ := h.spaced (.spaced_append hlead)
  rw [htext]
  exact .members (List.forall_mem_cons.mpr ⟨hfirst, hothers⟩)

theorem Sound.starts_value? (h : Sound fuel) {value : Json}
    (hread : value? (fuel + 1) depth cs = some (value, rest)) : Starts (Spells value) cs rest := by
  unfold value? at hread
  -- by the first character: the three words, a string, a negative number, an array, an object, any other number
  split at hread
  case h_1 => exact starts_word hread IsValue.null
  case h_2 => exact starts_word hread IsValue.true
  case h_3 => exact starts_word hread IsValue.false
  case h_4 inside =>
    obtain ⟨⟨body, after⟩, hbody, heq⟩ := Option.map_eq_some_iff.mp hread
    cases heq
    obtain ⟨front, rfl, hfront⟩ := starts_stringBody? hbody
    exact ⟨'"' :: front ++ ['"'], by simp, IsValue.string (.quoted hfront)⟩
  case h_5 digits =>
    obtain ⟨⟨n, after⟩, hnumber, heq⟩ := Option.map_eq_some_iff.mp hread
    cases heq
    obtain ⟨front, rfl, hfront⟩ := starts_number? hnumber
    exact ⟨'-' :: front, rfl, IsValue.negative hfront⟩
  case h_6 inside =>
    obtain ⟨-, hread⟩ := Option.ite_none_left_eq_some.mp hread
    split at hread
    case h_1 hclose =>
      cases hread
      obtain ⟨gap, rfl, hgap⟩ := starts_of_skipSpace hclose
      exact ⟨'[' :: gap ++ [']'], by simp, IsValue.emptyArray hgap⟩
    case h_2 =>
      obtain ⟨⟨items, after⟩, hitems, heq⟩ := Option.map_eq_some_iff.mp hread
      cases heq
      obtain ⟨text, htext, hlist⟩ := h.items hitems
      obtain ⟨lead, rfl, hlead⟩ := starts_of_skipSpace htext
      exact ⟨'[' :: (lead ++ text), by simp, hlist.isValue hlead⟩
  case h_7 inside =>
    obtain ⟨-, hread⟩ := Option.ite_none_left_eq_some.mp hread
    split at hread
    case h_1 hclose =>
      cases hread
      obtain ⟨gap, rfl, hgap⟩ := starts_of_skipSpace hclose
      exact ⟨'\x7b' :: gap ++ ['\x7d'], by simp, IsObject.empty hgap⟩
    case h_2 =>
      obtain ⟨⟨entries, after⟩, hentries, heq⟩ := Option.map_eq_some_iff.mp hread
      cases heq
      obtain ⟨text, htext, hlist⟩ := h.entries hentries
      obtain ⟨lead, rfl, hlead⟩ := starts_of_skipSpace htext
      exact ⟨'\x7b' :: (lead ++ text), by simp, hlist.isObject hlead⟩
  case h_8 =>
    obtain ⟨⟨n, after⟩, hnumber, heq⟩ := Option.map_eq_some_iff.mp hread
    cases heq
    obtain ⟨front, rfl, hfront⟩ := starts_number? hnumber
    exact ⟨front, rfl, IsValue.natural hfront⟩

end

/-- Whatever is read, however many steps it takes, is spelled by what is taken off the text. -/
theorem sound (fuel : Nat) : Sound fuel := by
  -- each reader hands the others one step less, so the three go through together
  induction fuel with
  | zero =>
      refine ⟨?_, ?_, ?_⟩
      all_goals
        intro _ _ _ _ hread
        cases hread
  | succ fuel ih => exact ⟨ih.starts_value?, ih.starts_items?, ih.starts_entries?⟩

/-- Only the text of an object is read as an object. -/
theorem isObjectText_of_ofChars? {line : List Char} {entries : List (String × Json)}
    (h : ofChars? line = some (.members entries)) : IsObjectText line := by
  obtain ⟨⟨value, rest⟩, hvalue, h⟩ := Option.bind_eq_some_iff.mp h
  obtain ⟨hrest, heq⟩ := Option.ite_none_right_eq_some.mp h
  cases heq
  obtain ⟨object, hobject, hisObject⟩ := (sound _).value hvalue
  obtain ⟨lead, rfl, hlead⟩ := starts_of_skipSpace hobject
  have htrail : Blanks rest := List.dropWhile_eq_nil_iff.mp (List.isEmpty_iff.mp hrest)
  exact ⟨lead, object, rest, by simp, hlead, hisObject, htrail⟩

theorem IsObject.getLast? {object : List Char} (h : IsObject object) : object.getLast? = some '\x7d' := by
  cases h with
  | empty _ => exact List.getLast?_concat
  | members _ => exact List.getLast?_concat

/-- Blanks at the end do not matter. -/
theorem IsObjectText.of_append {line trail : List Char} (h : IsObjectText (line ++ trail)) (htrail : Blanks trail) :
    IsObjectText line := by
  induction trail using List.reverseRecOn with
  | nil => rwa [List.append_nil] at h
  | append_singleton trail c ih =>
      obtain ⟨hfront, hlast⟩ := List.forall_mem_append.mp htrail
      have hc : isSpace c = true := hlast c List.mem_cons_self
      refine ih ?_ hfront
      obtain ⟨lead, object, after, heq, hlead, hobject, hafter⟩ := h
      rcases List.eq_nil_or_concat after with rfl | ⟨after, d, rfl⟩
      · have hbrace : (lead ++ object ++ []).getLast? = some '\x7d' := by
          rw [List.append_nil, List.getLast?_append, hobject.getLast?, Option.some_or]
        rw [← heq, ← List.append_assoc, List.getLast?_concat] at hbrace
        cases hbrace
        cases hc
      · rw [List.concat_eq_append] at heq hafter
        rw [← List.append_assoc, ← List.append_assoc] at heq
        obtain ⟨hline, -⟩ := List.append_inj' heq rfl
        exact ⟨lead, object, after, hline, hlead, hobject, (List.forall_mem_append.mp hafter).1⟩

end BalanceSheet.Json
