import BalanceSheet.Proofs.Json.Scalars
import BalanceSheet.Proofs.Lists
import BalanceSheet.Proofs.Sorted
import Mathlib.Data.List.TakeWhile

/-!
JSON values, written and read back. A value may be written with the members of its objects in any order; it is read
as it was, with its members in the order of keys, if its numbers are integers of 64 bits and it is nested no deeper
than there is room for. The text of a value ends where it ends whatever comes next, if only no number goes on there.
-/

namespace BalanceSheet

/-- An integer of 64 bits, with a sign or without. -/
inductive JsonNumber.IsInteger : JsonNumber → Prop where
  | natural {n : Nat} (h : n ≤ Decimal.maxUInt64) : IsInteger (.natural n)
  | negative {n : Int} (hneg : n < 0) (h : -n ≤ Decimal.maxInt64 + 1) : IsInteger (.negative n)

namespace Json

/-- A value as a store may hold it: objects are maps, numbers are integers of 64 bits, and arrays and objects are
nested at most `depth` deep. -/
inductive Storable : Nat → Json → Prop where
  | null {depth : Nat} : Storable depth .null
  | bool {depth : Nat} (b : Bool) : Storable depth (.bool b)
  | number {depth : Nat} {n : JsonNumber} (h : n.IsInteger) : Storable depth (.number n)
  | string {depth : Nat} (s : String) : Storable depth (.string s)
  | array {depth : Nat} {items : List Json} (h : ∀ item ∈ items, Storable depth item) :
      Storable (depth + 1) (.array items)
  | members {depth : Nat} {entries : List (String × Json)} (hsorted : entries.Pairwise fun a b => a.1 < b.1)
      (h : ∀ entry ∈ entries, Storable depth entry.2) : Storable (depth + 1) (.members entries)

mutual

/-- The first is the second with the members of its objects in any order. -/
inductive Rearranges : Json → Json → Prop where
  | null : Rearranges .null .null
  | bool (b : Bool) : Rearranges (.bool b) (.bool b)
  | number (n : JsonNumber) : Rearranges (.number n) (.number n)
  | string (s : String) : Rearranges (.string s) (.string s)
  | array {written items : List Json} (h : List.Forall₂ Rearranges written items) :
      Rearranges (.array written) (.array items)
  | members {written arranged entries : List (String × Json)} (h : List.Forall₂ RearrangesMember written arranged)
      (hperm : arranged.Perm entries) : Rearranges (.members written) (.members entries)

inductive RearrangesMember : String × Json → String × Json → Prop where
  | member {key : String} {written value : Json} (h : Rearranges written value) :
      RearrangesMember (key, written) (key, value)

end

/-! ### Texts -/

/-- The text of a value, as it is read. -/
def chars (json : Json) : List Char := (compact json).toList

def memberChars (entry : String × Json) : List Char := (quoted entry.1).toList ++ ':' :: chars entry.2

theorem chars_array (items : List Json) :
    chars (.array items) = '[' :: [','].intercalate (items.map chars) ++ [']'] := by
  have hitems : compactItems items = items.map compact := by
    induction items with
    | nil => rfl
    | cons item items ih => rw [compactItems, ih, List.map_cons]
  rw [chars, compact, hitems, String.toList_append, String.toList_append, String.toList_intercalate, List.map_map]
  rfl

theorem chars_members (entries : List (String × Json)) :
    chars (.members entries) = '\x7b' :: [','].intercalate (entries.map memberChars) ++ ['\x7d'] := by
  have hentries : compactEntries entries = entries.map fun entry => quoted entry.1 ++ ":" ++ compact entry.2 := by
    induction entries with
    | nil => rfl
    | cons entry entries ih => rw [compactEntries, ih, List.map_cons]
  have hmember (entry : String × Json) : (quoted entry.1 ++ ":" ++ compact entry.2).toList = memberChars entry := by
    rw [String.toList_append, String.toList_append, memberChars, List.append_assoc]
    rfl
  rw [chars, compact, hentries, String.toList_append, String.toList_append, String.toList_intercalate, List.map_map]
  simp only [Function.comp_def, hmember]
  rfl

/-! ### Steps of the reader -/

section

variable {fuel depth : Nat} {cs inside after more : List Char} {item value : Json} {key : List Char}

theorem items?_last (h : value? fuel depth cs = some (item, ']' :: after)) :
    items? (fuel + 1) depth cs = some ([item], after) := by
  rw [items?, h]
  rfl

theorem items?_more (h : value? fuel depth cs = some (item, ',' :: more)) :
    items? (fuel + 1) depth cs =
      (items? fuel depth (skipSpace more)).map fun (items, after) => (item :: items, after) := by
  rw [items?, h]
  show (items? fuel depth (skipSpace more)).bind _ = _
  cases items? fuel depth (skipSpace more) <;> rfl

theorem entries?_last (hkey : stringBody? inside = some (key, ':' :: cs))
    (hvalue : value? fuel depth (skipSpace cs) = some (value, '\x7d' :: after)) :
    entries? (fuel + 1) depth ('"' :: inside) = some ([(String.ofList key, value)], after) := by
  rw [entries?, hkey]
  show (value? fuel depth (skipSpace cs)).bind _ = _
  rw [hvalue]
  rfl

theorem entries?_more (hkey : stringBody? inside = some (key, ':' :: cs))
    (hvalue : value? fuel depth (skipSpace cs) = some (value, ',' :: more)) :
    entries? (fuel + 1) depth ('"' :: inside) =
      (entries? fuel depth (skipSpace more)).map fun (entries, after) =>
        ((String.ofList key, value) :: entries, after) := by
  rw [entries?, hkey]
  show (value? fuel depth (skipSpace cs)).bind _ = _
  rw [hvalue]
  show (entries? fuel depth (skipSpace more)).bind _ = _
  cases entries? fuel depth (skipSpace more) <;> rfl

end

/-! ### Lists of values -/

theorem printable_intercalate {texts : List (List Char)} (h : ∀ text ∈ texts, Printable text) :
    Printable ([','].intercalate texts) := by
  induction texts with
  | nil => exact printable_nil
  | cons text texts ih =>
      obtain ⟨htext, htexts⟩ := List.forall_mem_cons.mp h
      cases texts with
      | nil => simpa using htext
      | cons next texts =>
          rw [List.intercalate_cons_cons]
          simpa [htext] using ih htexts

/-- A value or a member starts with no blank, and with nothing that closes a bracket. -/
def Opens (cs : List Char) : Prop := ∃ c rest, cs = c :: rest ∧ isSpace c = false ∧ c ≠ ']' ∧ c ≠ '\x7d'

/-- What is written is one line and is read as the value, wherever it stands. -/
structure Reads (depth : Nat) (written value : Json) : Prop where
  opens : Opens (chars written)
  printable : Printable (chars written)
  read : ∀ fuel rest, (chars written).length ≤ fuel → EndsNumber rest →
    value? fuel depth (chars written ++ rest) = some (value, rest)

theorem skipSpace_cons {c : Char} {cs : List Char} (h : isSpace c = false) : skipSpace (c :: cs) = c :: cs :=
  List.dropWhile_cons_of_neg (by simp [h])

theorem Opens.append {cs : List Char} (h : Opens cs) (rest : List Char) : Opens (cs ++ rest) := by
  obtain ⟨c, cs, rfl, hopens⟩ := h
  exact ⟨c, cs ++ rest, rfl, hopens⟩

theorem Opens.skipSpace_append {cs : List Char} (h : Opens cs) (rest : List Char) :
    skipSpace (cs ++ rest) = cs ++ rest := by
  obtain ⟨c, cs, rfl, hspace, -⟩ := h
  exact skipSpace_cons hspace

theorem endsNumber_cons {c : Char} {rest : List Char}
    (h : c.isDigit = false ∧ c ≠ '.' ∧ c ≠ 'e' ∧ c ≠ 'E') : EndsNumber (c :: rest) := by
  rintro _ ⟨⟩
  exact h

theorem opens_intercalate {cs : List Char} {texts : List (List Char)} (h : Opens cs) :
    Opens ([','].intercalate (cs :: texts)) := by
  cases texts with
  | nil => simpa using h
  | cons text texts =>
      rw [List.intercalate_cons_cons, List.append_assoc]
      exact h.append _

/-- Items are read one after another, with a step to spare for each of their characters. -/
theorem items?_intercalate {depth : Nat} {w v : Json} {ws vs : List Json}
    (h : List.Forall₂ (Reads depth) (w :: ws) (v :: vs)) (fuel : Nat)
    (hfuel : ([','].intercalate ((w :: ws).map chars)).length ≤ fuel) (rest : List Char) :
    items? (fuel + 1) depth ([','].intercalate ((w :: ws).map chars) ++ ']' :: rest) = some (v :: vs, rest) := by
  induction ws generalizing w v vs fuel with
  | nil =>
      obtain ⟨hread, htail⟩ := List.forall₂_cons.mp h
      cases htail
      simp only [List.map_cons, List.map_nil, List.intercalate_singleton] at hfuel ⊢
      exact items?_last (hread.read fuel _ hfuel (endsNumber_cons (by decide)))
  | cons w' ws ih =>
      obtain ⟨hread, htail⟩ := List.forall₂_cons.mp h
      obtain _ | ⟨hnext, hrest⟩ := htail
      rw [List.map_cons, List.map_cons, List.intercalate_cons_cons] at hfuel ⊢
      simp only [List.length_append, List.length_singleton] at hfuel
      obtain ⟨fuel, rfl⟩ := Nat.exists_eq_succ_of_ne_zero (by omega : fuel ≠ 0)
      have hmore := ih (.cons hnext hrest) fuel (by rw [List.map_cons]; omega)
      rw [List.map_cons] at hmore
      rw [List.append_assoc, List.append_assoc, List.singleton_append,
        items?_more (hread.read (fuel + 1) _ (by omega) (endsNumber_cons (by decide))),
        (opens_intercalate hnext.opens).skipSpace_append, hmore]
      rfl

theorem memberChars_append (entry : String × Json) (rest : List Char) : memberChars entry ++ rest =
    '"' :: (entry.1.toList.flatMap escapeChar ++ '"' :: ':' :: (chars entry.2 ++ rest)) := by
  rw [memberChars, quoted, String.toList_ofList]
  simp only [List.cons_append, List.append_assoc, List.nil_append]

theorem length_lt_memberChars (entry : String × Json) : (chars entry.2).length < (memberChars entry).length := by
  rw [memberChars, List.length_append, List.length_cons]
  omega

theorem opens_memberChars (entry : String × Json) : Opens (memberChars entry) :=
  ⟨'"', _, by simpa using memberChars_append entry [], by decide⟩

theorem printable_memberChars {entry : String × Json} (h : Printable (chars entry.2)) :
    Printable (memberChars entry) := by
  simpa [memberChars] using ⟨printable_quoted entry.1, h⟩

/-- Members are read in the order in which they are written. -/
theorem entries?_intercalate {depth : Nat} {w a : String × Json} {ws as : List (String × Json)}
    (h : List.Forall₂ (fun w a => w.1 = a.1 ∧ Reads depth w.2 a.2) (w :: ws) (a :: as)) (fuel : Nat)
    (hfuel : ([','].intercalate ((w :: ws).map memberChars)).length ≤ fuel) (rest : List Char) :
    entries? (fuel + 1) depth ([','].intercalate ((w :: ws).map memberChars) ++ '\x7d' :: rest) =
      some (a :: as, rest) := by
  induction ws generalizing w a as fuel with
  | nil =>
      obtain ⟨⟨hkey, hread⟩, htail⟩ := List.forall₂_cons.mp h
      cases htail
      obtain ⟨key, value⟩ := a
      cases hkey
      simp only [List.map_cons, List.map_nil, List.intercalate_singleton] at hfuel ⊢
      have hlength := length_lt_memberChars w
      have hvalue : value? fuel depth (skipSpace (chars w.2 ++ '\x7d' :: rest)) = some (value, '\x7d' :: rest) := by
        rw [hread.opens.skipSpace_append]
        exact hread.read fuel _ (by omega) (endsNumber_cons (by decide))
      rw [memberChars_append, entries?_last (stringBody?_flatMap _ _) hvalue, String.ofList_toList]
  | cons w' ws ih =>
      obtain ⟨⟨hkey, hread⟩, htail⟩ := List.forall₂_cons.mp h
      obtain _ | ⟨hnext, hrest⟩ := htail
      obtain ⟨key, value⟩ := a
      cases hkey
      rw [List.map_cons, List.map_cons, List.intercalate_cons_cons] at hfuel ⊢
      simp only [List.length_append, List.length_singleton] at hfuel
      have hlength := length_lt_memberChars w
      obtain ⟨fuel, rfl⟩ := Nat.exists_eq_succ_of_ne_zero (by omega : fuel ≠ 0)
      have hmore := ih (.cons hnext hrest) fuel (by rw [List.map_cons]; omega)
      rw [List.map_cons] at hmore
      have hvalue (more : List Char) : value? (fuel + 1) depth (skipSpace (chars w.2 ++ ',' :: more)) =
          some (value, ',' :: more) := by
        rw [hread.opens.skipSpace_append]
        exact hread.read (fuel + 1) _ (by omega) (endsNumber_cons (by decide))
      rw [List.append_assoc, List.append_assoc, List.singleton_append, memberChars_append,
        entries?_more (stringBody?_flatMap _ _) (hvalue _), (opens_intercalate (opens_memberChars w')).skipSpace_append,
        hmore, String.ofList_toList]
      rfl

/-! ### Single values -/

theorem ne_of_isDigit {c d : Char} (hd : d.isDigit = true) (hc : c.isDigit = false) : d ≠ c := by
  rintro rfl
  rw [hd] at hc
  cases hc

theorem isSpace_of_isDigit {d : Char} (h : d.isDigit = true) : isSpace d = false := by
  have hne {c : Char} (hc : c.isDigit = false) : d ≠ c := ne_of_isDigit h hc
  simp [isSpace, hne (by decide : ' '.isDigit = false), hne (by decide : '\t'.isDigit = false),
    hne (by decide : '\n'.isDigit = false), hne (by decide : '\r'.isDigit = false)]

theorem value?_digit {fuel depth : Nat} {d : Char} {cs : List Char} (h : d.isDigit = true) :
    value? (fuel + 1) depth (d :: cs) = (number? false (d :: cs)).map fun (n, after) => (.number n, after) := by
  rw [value?]
  all_goals
    rintro _ ⟨⟩
    exact absurd h (by decide)

/-- A value that is written with its first character and then others is read if it is read from one step on. -/
theorem reads_of_cons {depth : Nat} {written value : Json} {c : Char} {cs : List Char}
    (hchars : chars written = c :: cs) (hopens : isSpace c = false ∧ c ≠ ']' ∧ c ≠ '\x7d')
    (hprintable : Printable (c :: cs))
    (hread : ∀ fuel rest, cs.length ≤ fuel → EndsNumber rest →
      value? (fuel + 1) depth (c :: (cs ++ rest)) = some (value, rest)) : Reads depth written value := by
  refine ⟨⟨c, cs, hchars, hopens⟩, hchars ▸ hprintable, fun fuel rest hfuel hrest => ?_⟩
  rw [hchars, List.length_cons] at hfuel
  obtain ⟨fuel, rfl⟩ := Nat.exists_eq_succ_of_ne_zero (by omega : fuel ≠ 0)
  rw [hchars, List.cons_append]
  exact hread fuel rest (by omega) hrest

variable {depth : Nat}

theorem reads_null : Reads depth .null .null :=
  have hchars : chars .null = ['n', 'u', 'l', 'l'] := rfl
  reads_of_cons hchars (by decide) (by simp) fun _ _ _ _ => rfl

theorem reads_bool (b : Bool) : Reads depth (.bool b) (.bool b) := by
  cases b with
  | false =>
      have hchars : chars (.bool false) = ['f', 'a', 'l', 's', 'e'] := rfl
      exact reads_of_cons hchars (by decide) (by simp) fun _ _ _ _ => rfl
  | true =>
      have hchars : chars (.bool true) = ['t', 'r', 'u', 'e'] := rfl
      exact reads_of_cons hchars (by decide) (by simp) fun _ _ _ _ => rfl

theorem reads_string (s : String) : Reads depth (.string s) (.string s) := by
  have hchars : chars (.string s) = '"' :: (s.toList.flatMap escapeChar ++ ['"']) := by
    rw [chars, compact, quoted, String.toList_ofList]
    rfl
  refine reads_of_cons hchars (by decide) (hchars ▸ printable_quoted s) fun fuel rest _ _ => ?_
  rw [List.append_assoc, List.singleton_append, value?, stringBody?_flatMap, Option.map_some]
  simp only [String.ofList_toList]

theorem printable_toDigits (n : Nat) : Printable (Nat.toDigits 10 n) := by
  intro c hc
  have hdigit : c.isDigit = true := Text.isDigit_of_mem_toDigits hc
  exact Nat.le_trans (by decide) (Char.isDigit_iff_toNat.mp hdigit).1

theorem reads_number {n : JsonNumber} (h : n.IsInteger) : Reads depth (.number n) (.number n) := by
  cases h with
  | @natural n h =>
      have hchars : chars (.number (.natural n)) = Nat.toDigits 10 n := by
        rw [chars, compact, numberText, Nat.toString_eq_ofList_toDigits, String.toList_ofList]
      cases hcs : Nat.toDigits 10 n with
      | nil => exact absurd hcs Nat.toDigits_ne_nil
      | cons d ds =>
          have hd : d.isDigit = true :=
            Text.isDigit_of_mem_toDigits (hcs ▸ List.mem_cons_self : d ∈ Nat.toDigits 10 n)
          refine reads_of_cons (hchars.trans hcs) ?_ (hcs ▸ printable_toDigits n) ?_
          · exact ⟨isSpace_of_isDigit hd, ne_of_isDigit hd (by decide), ne_of_isDigit hd (by decide)⟩
          intro fuel rest _ hrest
          rw [value?_digit hd, ← List.cons_append, ← hcs, number?_toDigits h hrest]
          rfl
  | @negative n hneg h =>
      obtain ⟨m, rfl⟩ := Int.eq_negSucc_of_lt_zero hneg
      have hm : m + 1 ≤ Decimal.maxInt64 + 1 := by omega
      have hchars : chars (.number (.negative (Int.negSucc m))) = '-' :: Nat.toDigits 10 (m + 1) := by
        show ("-" ++ toString (m + 1)).toList = _
        rw [String.toList_append, Nat.toString_eq_ofList_toDigits, String.toList_ofList, String.toList_ofList]
        rfl
      have hwhole : wholeNumber true (m + 1) = .negative (Int.negSucc m) := by
        rw [wholeNumber, if_neg (by decide), if_neg (by simpa using hm)]
        rfl
      have hfits : m + 1 ≤ Decimal.maxUInt64 := Nat.le_trans hm (by decide)
      have hprintable : Printable ('-' :: Nat.toDigits 10 (m + 1)) :=
        printable_cons.mpr ⟨by decide, printable_toDigits (m + 1)⟩
      refine reads_of_cons hchars (by decide) hprintable fun fuel rest _ hrest => ?_
      rw [value?, number?_toDigits hfits hrest, hwhole]
      rfl

/-! ### Nested values -/

theorem value?_array {fuel : Nat} {inside : List Char} (h : Opens inside) :
    value? (fuel + 1) (depth + 1) ('[' :: inside) =
      (items? fuel depth inside).map fun (items, after) => (.array items, after) := by
  obtain ⟨c, cs, rfl, hspace, hclose, -⟩ := h
  rw [value?, if_neg (Nat.succ_ne_zero depth), skipSpace_cons hspace]
  split
  case h_1 heq => exact absurd (List.head_eq_of_cons_eq heq) hclose
  case h_2 => rfl

theorem value?_members {fuel : Nat} {inside : List Char} (h : Opens inside) :
    value? (fuel + 1) (depth + 1) ('\x7b' :: inside) =
      (entries? fuel depth inside).map fun (entries, after) => (.object entries, after) := by
  obtain ⟨c, cs, rfl, hspace, -, hclose⟩ := h
  rw [value?, if_neg (Nat.succ_ne_zero depth), skipSpace_cons hspace]
  split
  case h_1 heq => exact absurd (List.head_eq_of_cons_eq heq) hclose
  case h_2 => rfl

theorem reads_array {written items : List Json} (h : List.Forall₂ (Reads depth) written items) :
    Reads (depth + 1) (.array written) (.array items) := by
  have hchars : chars (.array written) = '[' :: ([','].intercalate (written.map chars) ++ [']']) := by
    rw [chars_array, List.cons_append]
  have hitems : Printable ([','].intercalate (written.map chars)) := by
    refine printable_intercalate (List.forall_mem_map.mpr fun w hw => ?_)
    obtain ⟨v, -, hread⟩ := forall₂_exists_right h hw
    exact hread.printable
  refine reads_of_cons hchars (by decide) (by simpa using hitems) fun fuel rest hfuel _ => ?_
  rw [List.append_assoc, List.singleton_append]
  cases h with
  | nil => rfl
  | @cons w v ws vs hread htail =>
      rw [List.length_append, List.length_singleton] at hfuel
      obtain ⟨fuel, rfl⟩ := Nat.exists_eq_succ_of_ne_zero (by omega : fuel ≠ 0)
      have hopens : Opens ([','].intercalate ((w :: ws).map chars)) := opens_intercalate hread.opens
      rw [value?_array (hopens.append _),
        items?_intercalate (.cons hread htail) fuel (by omega) rest]
      rfl

/-- Members that are written in any order are put in the order of keys. -/
theorem reads_members {written arranged entries : List (String × Json)}
    (h : List.Forall₂ (fun w a => w.1 = a.1 ∧ Reads depth w.2 a.2) written arranged)
    (hperm : arranged.Perm entries) (hsorted : entries.Pairwise fun a b => a.1 < b.1) :
    Reads (depth + 1) (.members written) (.members entries) := by
  have hchars : chars (.members written) = '\x7b' :: ([','].intercalate (written.map memberChars) ++ ['\x7d']) := by
    rw [chars_members, List.cons_append]
  have hitems : Printable ([','].intercalate (written.map memberChars)) := by
    refine printable_intercalate (List.forall_mem_map.mpr fun w hw => ?_)
    obtain ⟨a, -, -, hread⟩ := forall₂_exists_right h hw
    exact printable_memberChars hread.printable
  have hobject : object arranged = .members entries := by rw [object, Sorted.ofList_eq_of_perm hperm hsorted]
  refine reads_of_cons hchars (by decide) (by simpa using hitems) fun fuel rest hfuel _ => ?_
  rw [List.append_assoc, List.singleton_append]
  cases h with
  | nil =>
      rw [← hobject]
      rfl
  | @cons w a ws as hread htail =>
      rw [List.length_append, List.length_singleton] at hfuel
      obtain ⟨fuel, rfl⟩ := Nat.exists_eq_succ_of_ne_zero (by omega : fuel ≠ 0)
      have hopens : Opens ([','].intercalate ((w :: ws).map memberChars)) := opens_intercalate (opens_memberChars w)
      rw [value?_members (hopens.append _),
        entries?_intercalate (.cons hread htail) fuel (by omega) rest, ← hobject]
      rfl

/-- A value is read as it is, in whatever order the members of its objects are written. -/
theorem Storable.reads {written value : Json} (h : Storable depth value) (hwritten : Rearranges written value) :
    Reads depth written value := by
  induction h generalizing written with
  | null =>
      cases hwritten
      exact reads_null
  | bool b =>
      cases hwritten
      exact reads_bool b
  | number hinteger =>
      cases hwritten
      exact reads_number hinteger
  | string s =>
      cases hwritten
      exact reads_string s
  | array _ ih =>
      cases hwritten with
      | array hitems => exact reads_array ((forall₂_and_mem hitems).imp fun w v ⟨_, hv, hwv⟩ => ih v hv hwv)
  | members hsorted _ ih =>
      cases hwritten with
      | members hitems hperm =>
          refine reads_members ((forall₂_and_mem hitems).imp ?_) hperm hsorted
          rintro _ _ ⟨-, harranged, @⟨key, written, value, hwritten⟩⟩
          exact ⟨rfl, ih (key, value) (hperm.mem_iff.mp harranged) hwritten⟩

/-- The text of a value is read as the value, also with blanks at its end. -/
theorem Storable.ofChars?_append {written value : Json} (h : Storable 127 value) (hwritten : Rearranges written value)
    {trail : List Char} (htrail : ∀ c ∈ trail, isSpace c = true) : ofChars? (chars written ++ trail) = some value := by
  have hreads : Reads 127 written value := h.reads hwritten
  have hends : EndsNumber trail := by
    intro c hc
    have hspace : isSpace c = true := htrail c (List.mem_of_mem_head? hc)
    simp only [isSpace, Bool.or_eq_true, decide_eq_true_eq] at hspace
    rcases hspace with ((rfl | rfl) | rfl) | rfl
    all_goals decide
  have hskip : skipSpace trail = [] := List.dropWhile_eq_nil_iff.mpr htrail
  rw [ofChars?, hreads.opens.skipSpace_append, hreads.read _ _ (by rw [List.length_append]; omega) hends]
  simp [hskip]

end Json
end BalanceSheet
