import BalanceSheet.Proofs.Lists
import BalanceSheet.Text.Basic
import Mathlib.Data.List.DropRight
import Mathlib.Data.List.Induction
import Mathlib.Data.List.Infix

/-!
The stretches of a text between separators, and the word INTO among them. Upper case can lengthen a text,
but no character but the space has a space in its upper case, so what stands between two spaces in the upper
case of a text stands between two spaces in the text.
-/

namespace BalanceSheet.Text

theorem contains_iff_isInfix {part cs : List Char} : contains part cs = true ↔ part <:+: cs := by
  induction cs with
  | nil => simp [contains]
  | cons c cs ih => rw [contains, Bool.or_eq_true, List.isPrefixOf_iff_prefix, ih, List.infix_cons_iff]

theorem endsWith_singleton_iff {c : Char} {cs : List Char} : endsWith [c] cs = true ↔ cs.getLast? = some c := by
  rw [endsWith, List.isPrefixOf_iff_prefix, List.reverse_prefix]
  constructor
  · rintro ⟨front, rfl⟩
    simp
  · intro h
    obtain ⟨front, rfl⟩ := List.getLast?_eq_some_iff.mp h
    exact List.suffix_append front [c]

/-! ### Stretches -/

/-- `word` has no separator, and stands between separators or the ends of the text. -/
structure Stretch (sep : Char → Bool) (before word after : List Char) : Prop where
  free : ∀ c ∈ word, sep c = false
  left : ∀ c ∈ before.getLast?, sep c = true
  right : ∀ c ∈ after.head?, sep c = true

section

variable {sep : Char → Bool} {cs before word after : List Char}

theorem Stretch.mem_splitOnP (h : Stretch sep before word after) :
    word ∈ (before ++ word ++ after).splitOnP sep := by
  have hword : word.splitOnP sep = [word] := List.splitOnP_eq_singleton h.free
  have hright : word ∈ (word ++ after).splitOnP sep := by
    cases hafter : after with
    | nil => simp [hword]
    | cons c after =>
        have hc : sep c = true := h.right c (by simp [hafter])
        simp [List.splitOnP_append_cons _ _ hc, hword]
  rw [List.append_assoc]
  rcases List.eq_nil_or_concat before with rfl | ⟨before, c, rfl⟩
  · exact hright
  · have hc : sep c = true := h.left c (by simp)
    rw [List.concat_append, List.splitOnP_append_cons _ _ hc]
    exact List.mem_append_right _ hright

theorem exists_stretch_of_mem_splitOnP (h : word ∈ cs.splitOnP sep) :
    ∃ before after, cs = before ++ word ++ after ∧ Stretch sep before word after := by
  induction hlength : cs.length using Nat.strongRecOn generalizing cs with
  | _ n ih =>
      cases hfind : cs.find? sep with
      | none =>
          have hfree : ∀ c ∈ cs, sep c = false := by simpa using hfind
          rw [List.splitOnP_eq_singleton hfree, List.mem_singleton] at h
          exact ⟨[], [], by simp [h], h ▸ hfree, by simp, by simp⟩
      | some c =>
          obtain ⟨hc, first, rest, rfl, hfirst⟩ := List.find?_eq_some_iff_append.mp hfind
          simp only [Bool.not_eq_true'] at hfirst
          rw [List.splitOnP_append_cons _ _ hc, List.splitOnP_eq_singleton hfirst, List.mem_append,
            List.mem_singleton] at h
          rcases h with rfl | h
          · exact ⟨[], c :: rest, by simp, hfirst, by simp, by simpa using hc⟩
          · have hshorter : rest.length < n := by
              simp only [← hlength, List.length_append, List.length_cons]
              omega
            obtain ⟨before, after, rfl, hstretch⟩ := ih _ hshorter h rfl
            refine ⟨first ++ c :: before, after, by simp, hstretch.free, ?_, hstretch.right⟩
            intro d hd
            cases before with
            | nil => simp_all
            | cons e before => exact hstretch.left d (by simpa using hd)

/-- The stretches of a text are what is left of it when it is cut at every separator. -/
theorem mem_splitOnP_iff : word ∈ cs.splitOnP sep ↔
    ∃ before after, cs = before ++ word ++ after ∧ Stretch sep before word after := by
  constructor
  · exact exists_stretch_of_mem_splitOnP
  · rintro ⟨before, after, rfl, h⟩
    exact h.mem_splitOnP

end

/-! ### Upper case -/

theorem upper_append (cs cs' : List Char) : upper (cs ++ cs') = upper cs ++ upper cs' :=
  List.flatMap_append

theorem upper_cons (c : Char) (cs : List Char) : upper (c :: cs) = upperChar c ++ upper cs := rfl

/-- A character is its own upper case, or stands 32 places behind it. -/
theorem eq_or_behind_of_toUpper {c d : Char} (h : c.toUpper = d) :
    c = d ∨ ('a'.toNat ≤ c.toNat ∧ c.toNat = d.toNat + 32) := by
  unfold Char.toUpper at h
  split at h
  case isTrue hc =>
    subst h
    refine .inr ⟨hc.1, ?_⟩
    have hlow : 97 ≤ c.val.toNat := hc.1
    have hhigh : c.val.toNat ≤ 122 := hc.2
    show c.val.toNat = (c.val + ('A'.val - 'a'.val)).toNat + 32
    have hdiff : ('A'.val - 'a'.val).toNat = 2 ^ 32 - 32 := by decide
    rw [UInt32.toNat_add, hdiff]
    omega
  case isFalse => exact .inl h

/-- The characters whose upper case is in the word INTO. -/
def intoLetters : List Char := ['i', 'I', 'ı', 'n', 'N', 't', 'T', 'o', 'O']

/-- Besides the dotless i, no character that unfolds has a space or lies within INTO. -/
theorem upperChar_cases (c : Char) : upperChar c = [c.toUpper] ∨ c = 'ı' ∨
    (' ' ∉ upperChar c ∧ ∃ d ∈ upperChar c, d ∉ ['I', 'N', 'T', 'O']) := by
  let Fits (u : List Char) : Prop :=
    u = [c.toUpper] ∨ c = 'ı' ∨ (' ' ∉ u ∧ ∃ d ∈ u, d ∉ ['I', 'N', 'T', 'O'])
  show Fits (upperChar c)
  unfold upperChar
  refine iteInduction (fun h => .inr (.inl (beq_iff_eq.mp h))) fun _ => ?_
  repeat refine iteInduction (fun _ => .inr (.inr (by decide))) fun _ => ?_
  exact .inl rfl

theorem eq_space_of_mem_upperChar {c : Char} (h : ' ' ∈ upperChar c) : c = ' ' := by
  obtain hupper | rfl | ⟨hspace, -⟩ := upperChar_cases c
  · rw [hupper, List.mem_singleton] at h
    rcases eq_or_behind_of_toUpper h.symm with heq | ⟨hge, hnat⟩
    · exact heq
    · rw [hnat] at hge
      exact absurd hge (by decide)
  · exact absurd h (by decide)
  · exact absurd h hspace

theorem mem_intoLetters_of_toUpper {c : Char} (h : c.toUpper ∈ ['I', 'N', 'T', 'O']) : c ∈ intoLetters := by
  have hletters : ∀ d ∈ ['I', 'N', 'T', 'O'], d ∈ intoLetters ∧ Char.ofNat (d.toNat + 32) ∈ intoLetters := by
    decide
  obtain ⟨hupper, hlower⟩ := hletters _ h
  rcases eq_or_behind_of_toUpper (rfl : c.toUpper = c.toUpper) with heq | ⟨-, hnat⟩
  · rwa [← heq] at hupper
  · rwa [← hnat, Char.ofNat_toNat] at hlower

theorem mem_intoLetters {c : Char} (h : ∀ d ∈ upperChar c, d ∈ ['I', 'N', 'T', 'O']) : c ∈ intoLetters := by
  obtain hupper | rfl | ⟨-, d, hd, hother⟩ := upperChar_cases c
  · exact mem_intoLetters_of_toUpper (h _ (hupper ▸ List.mem_singleton_self _))
  · decide
  · exact absurd (h d hd) hother

theorem upperChar_space : upperChar ' ' = [' '] := by decide

/-- A space in the upper case of a text is a space of the text. -/
theorem exists_of_upper_eq {cs front back : List Char} (h : upper cs = front ++ ' ' :: back) :
    ∃ before after, cs = before ++ ' ' :: after ∧ upper before = front ∧ upper after = back := by
  induction cs generalizing front with
  | nil => simp [upper] at h
  | cons c cs ih =>
      rw [upper_cons, List.append_eq_append_iff] at h
      rcases h with ⟨middle, rfl, hrest⟩ | ⟨middle, hc, hrest⟩
      · obtain ⟨before, after, rfl, rfl, rfl⟩ := ih hrest
        exact ⟨c :: before, after, rfl, rfl, rfl⟩
      · cases middle with
        | nil =>
            obtain ⟨before, after, rfl, hbefore, rfl⟩ := @ih [] (by simpa using hrest.symm)
            refine ⟨c :: before, after, rfl, ?_, rfl⟩
            rw [upper_cons, hc, hbefore]
            simp
        | cons d middle =>
            obtain ⟨rfl, hback⟩ := List.cons.inj hrest
            obtain rfl : c = ' ' := eq_space_of_mem_upperChar (by simp [hc])
            rw [upperChar_space, eq_comm, List.append_eq_singleton_iff] at hc
            obtain ⟨rfl, hmiddle⟩ | ⟨-, hmiddle⟩ := hc
            · rw [(List.cons.inj hmiddle).2] at hback
              exact ⟨[], cs, rfl, rfl, hback.symm⟩
            · cases hmiddle

/-! ### The word INTO -/

/-- The word INTO in some letter case. -/
def IsInto (word : List Char) : Prop := upper word = ['I', 'N', 'T', 'O']

instance (word : List Char) : Decidable (IsInto word) := inferInstanceAs (Decidable (_ = _))

theorem IsInto.mem_letters {word : List Char} (h : IsInto word) : ∀ c ∈ word, c ∈ intoLetters := by
  intro c hc
  apply mem_intoLetters
  intro d hd
  rw [← h]
  exact List.mem_flatMap.mpr ⟨c, hc, hd⟩

theorem IsInto.not_isBlank {word : List Char} (h : IsInto word) : ∀ c ∈ word, isBlank c = false := by
  have hletters : ∀ c ∈ intoLetters, isBlank c = false := by decide
  exact fun c hc => hletters c (h.mem_letters c hc)

/-- Whether the word INTO stands between two spaces. -/
def SpacedInto (cs : List Char) : Prop :=
  ∃ before word after, cs = before ++ ' ' :: (word ++ ' ' :: after) ∧ IsInto word

theorem contains_into_iff {cs : List Char} : contains " INTO ".toList (upper cs) = true ↔ SpacedInto cs := by
  rw [contains_iff_isInfix]
  constructor
  · rintro ⟨front, back, h⟩
    have hopen : upper cs = front ++ ' ' :: (['I', 'N', 'T', 'O'] ++ ' ' :: back) := by simp [← h]
    obtain ⟨before, rest, rfl, -, hrest⟩ := exists_of_upper_eq hopen
    obtain ⟨word, after, rfl, hword, -⟩ := exists_of_upper_eq hrest
    exact ⟨before, word, after, rfl, hword⟩
  · rintro ⟨before, word, after, rfl, hword⟩
    refine ⟨upper before, upper after, ?_⟩
    have hupper : upper word = ['I', 'N', 'T', 'O'] := hword
    simp [upper_append, upper_cons, upperChar_space, hupper]

theorem SpacedInto.mono {cs cs' : List Char} (h : SpacedInto cs) (hcs : cs <:+: cs') : SpacedInto cs' := by
  obtain ⟨before, word, after, rfl, hword⟩ := h
  obtain ⟨front, back, rfl⟩ := hcs
  exact ⟨front ++ before, word, after ++ back, by simp, hword⟩

/-! ### Trimming -/

theorem infix_trim (s : String) : (trim s).toList <:+: s.toList := by
  have hend : trimEnd (trimStart s.toList) <+: trimStart s.toList := List.rdropWhile_prefix _ _
  have hstart : trimStart s.toList <:+ s.toList := List.dropWhile_suffix _
  rw [trim, String.toList_ofList]
  exact hend.isInfix.trans hstart.isInfix

/-- What neither starts nor ends blank stays where it is at the start of a text. -/
theorem prefix_trim {front : List Char} {s : String} (h : front <+: s.toList)
    (hstart : ∀ c ∈ front.head?, isBlank c = false) (hend : ∀ c ∈ front.getLast?, isBlank c = false)
    (hne : front ≠ []) : front <+: (trim s).toList := by
  obtain ⟨rest, hrest⟩ := h
  have hkept : trimStart s.toList = s.toList := by
    obtain ⟨c, others, rfl⟩ := List.exists_cons_of_ne_nil hne
    rw [← hrest, List.cons_append]
    exact List.dropWhile_cons_of_neg (by simp [hstart c rfl])
  rw [trim, String.toList_ofList, hkept, ← hrest]
  show front <+: (front ++ rest).rdropWhile isBlank
  clear hrest hkept
  induction rest using List.reverseRecOn with
  | nil =>
      have hself : front.rdropWhile isBlank = front := by
        rw [List.rdropWhile_eq_self_iff]
        intro hfront
        simpa using hend _ (List.getLast?_eq_some_getLast hfront)
      rw [List.append_nil, hself]
  | append_singleton rest c ih =>
      rw [← List.append_assoc, List.rdropWhile_concat]
      split
      · exact ih
      · rw [List.append_assoc]
        exact List.prefix_append _ _

end BalanceSheet.Text
