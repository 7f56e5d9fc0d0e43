import Mathlib.Data.List.Forall2
import Mathlib.Data.List.Induction
import Mathlib.Data.List.Nodup

/-!
Lists in step with each other, lists put together from parts, and lists without repetitions.
-/

namespace BalanceSheet

theorem forall₂_exists_left {α β : Type} {R : α → β → Prop} {xs : List α} {ys : List β}
    (h : List.Forall₂ R xs ys) {y : β} (hy : y ∈ ys) : ∃ x ∈ xs, R x y := by
  induction h with
  | nil => simp at hy
  | cons hxy _ ih =>
      rcases List.mem_cons.mp hy with rfl | hy
      · exact ⟨_, List.mem_cons_self, hxy⟩
      · obtain ⟨x, hx, hR⟩ := ih hy
        exact ⟨x, List.mem_cons_of_mem _ hx, hR⟩

theorem forall₂_exists_right {α β : Type} {R : α → β → Prop} {xs : List α} {ys : List β}
    (h : List.Forall₂ R xs ys) {x : α} (hx : x ∈ xs) : ∃ y ∈ ys, R x y := by
  obtain ⟨y, hy, hR⟩ := forall₂_exists_left h.flip hx
  exact ⟨y, hy, hR⟩

/-- Items in step are items of the lists. -/
theorem forall₂_and_mem {α β : Type} {R : α → β → Prop} {xs : List α} {ys : List β} (h : List.Forall₂ R xs ys) :
    List.Forall₂ (fun x y => x ∈ xs ∧ y ∈ ys ∧ R x y) xs ys := by
  have hright : List.Forall₂ (fun y x => y ∈ ys ∧ R x y) ys xs :=
    (List.forall₂_and_left _ _).mpr ⟨fun _ hy => hy, h.flip⟩
  exact (List.forall₂_and_left _ _).mpr ⟨fun _ hx => hx, hright.flip⟩

/-- Two that are there or not together are related if they are where both are. -/
theorem rel_of_eq_none_iff {α β : Type} {R : α → β → Prop} {o : Option α} {o' : Option β}
    (h : o = none ↔ o' = none) (hR : ∀ a ∈ o, ∀ b ∈ o', R a b) : Option.Rel R o o' := by
  cases o with
  | none =>
      rw [h.mp rfl]
      exact .none
  | some a =>
      cases o' with
      | none => cases h.mpr rfl
      | some b => exact .some (hR a rfl b rfl)

theorem forall₂_toList {α β : Type} {R : α → β → Prop} {o : Option α} {o' : Option β} (h : Option.Rel R o o') :
    List.Forall₂ R o.toList o'.toList := by
  cases h with
  | none => exact .nil
  | some h => exact .cons h .nil

/-- Where one of two lists in step is taken apart at an item, the other is at the item in step with it. -/
theorem forall₂_split {α β : Type} {R : α → β → Prop} {before after : List α} {x : α} {ys : List β}
    (h : List.Forall₂ R (before ++ x :: after) ys) :
    ∃ before' y after', ys = before' ++ y :: after' ∧ R x y ∧ List.Forall₂ R after after' := by
  induction before generalizing ys with
  | nil =>
      cases h with
      | cons hxy hrest => exact ⟨[], _, _, rfl, hxy, hrest⟩
  | cons head before ih =>
      cases h with
      | cons _ hrest =>
          obtain ⟨before', y, after', rfl, hxy, hafter⟩ := ih hrest
          exact ⟨_ :: before', y, after', rfl, hxy, hafter⟩

/-- Lists taken apart in step: if the parts are as long, equal wholes have equal parts. -/
theorem forall₂_of_flatMap_eq {α β γ : Type} {R : α → β → Prop} {f : α → List γ} {g : β → List γ}
    (hlength : ∀ x y, R x y → (f x).length = (g y).length) {xs : List α} {ys : List β}
    (h : List.Forall₂ R xs ys) (heq : xs.flatMap f = ys.flatMap g) :
    List.Forall₂ (fun x y => R x y ∧ f x = g y) xs ys := by
  induction h with
  | nil => exact .nil
  | cons hxy _ ih =>
      rw [List.flatMap_cons, List.flatMap_cons] at heq
      obtain ⟨hhead, htail⟩ := List.append_inj heq (hlength _ _ hxy)
      exact .cons ⟨hxy, hhead⟩ (ih htail)

/-- Two lists that stand in step with a third stand in step with each other. -/
theorem forall₂_of_common {α β γ : Type} {R : α → β → Prop} {R' : α → γ → Prop} {S : β → γ → Prop}
    (hstep : ∀ x y z, R x y → R' x z → S y z) {xs : List α} {ys : List β} {zs : List γ}
    (h : List.Forall₂ R xs ys) (h' : List.Forall₂ R' xs zs) : List.Forall₂ S ys zs := by
  induction h generalizing zs with
  | nil =>
      cases h'
      exact .nil
  | cons hxy _ ih =>
      cases h' with
      | cons hxz hrest => exact .cons (hstep _ _ _ hxy hxz) (ih hrest)

/-- An item of a list in two parts stands in the first part, or in the second with the first before it. -/
theorem split_append {α : Type} {front back before after : List α} {a : α}
    (h : front ++ back = before ++ a :: after) :
    (∃ rest, front = before ++ a :: rest) ∨ (front ⊆ before ∧ a ∈ back) := by
  rcases List.append_eq_append_iff.mp h with ⟨middle, rfl, hback⟩ | ⟨rest, rfl, hrest⟩
  · exact .inr ⟨List.subset_append_left front middle, by simp [hback]⟩
  · cases rest with
    | nil =>
        rw [List.nil_append] at hrest
        exact .inr ⟨by simp, hrest ▸ List.mem_cons_self⟩
    | cons head rest =>
        obtain ⟨rfl, -⟩ := List.cons.inj hrest
        exact .inl ⟨rest, rfl⟩

theorem eraseDups_concat {α : Type} [BEq α] [LawfulBEq α] (as : List α) (b : α) :
    (as ++ [b]).eraseDups = if b ∈ as then as.eraseDups else as.eraseDups ++ [b] := by
  rw [List.eraseDups_append, List.cons_removeAll]
  by_cases h : b ∈ as <;> simp [h, List.eraseDups_cons]

theorem nodup_eraseDups {α : Type} [BEq α] [LawfulBEq α] (as : List α) : as.eraseDups.Nodup := by
  induction as using List.reverseRecOn with
  | nil => exact List.nodup_nil
  | append_singleton as b ih =>
      rw [eraseDups_concat]
      split
      case isTrue => exact ih
      case isFalse h =>
        rw [← List.concat_eq_append]
        exact List.Nodup.concat (by simpa using h) ih

theorem eraseDups_of_nodup {α : Type} [BEq α] [LawfulBEq α] {as : List α} (h : as.Nodup) : as.eraseDups = as := by
  induction as using List.reverseRecOn with
  | nil => rfl
  | append_singleton as b ih =>
      obtain ⟨has, -, hnew⟩ := List.nodup_append.mp h
      have hb : b ∉ as := fun hmem => hnew b hmem b List.mem_cons_self rfl
      rw [eraseDups_concat, if_neg hb, ih has]

/-- What is found first is found first without repetitions. -/
theorem find?_eraseDups {α : Type} [BEq α] [LawfulBEq α] (p : α → Bool) (as : List α) :
    as.eraseDups.find? p = as.find? p := by
  induction as using List.reverseRecOn with
  | nil => rfl
  | append_singleton as b ih =>
      rw [eraseDups_concat, List.find?_append]
      split
      case isTrue h =>
        rw [ih]
        cases hfind : as.find? p with
        | some a => rfl
        | none =>
            have hb : p b = false := by simpa using List.find?_eq_none.mp hfind b h
            simp [hb]
      case isFalse => rw [List.find?_append, ih]

/-- What is left of a list without its repetitions is in the order of first occurrence. -/
theorem pairwise_idxOf_eraseDups {α : Type} [BEq α] [LawfulBEq α] (as : List α) :
    as.eraseDups.Pairwise fun a a' => as.idxOf a < as.idxOf a' := by
  induction as using List.reverseRecOn with
  | nil => exact .nil
  | append_singleton as b ih =>
      have hbefore : as.eraseDups.Pairwise fun a a' => (as ++ [b]).idxOf a < (as ++ [b]).idxOf a' := by
        refine ih.imp_of_mem ?_
        intro a a' ha ha' hlt
        rwa [List.idxOf_append_of_mem (List.mem_eraseDups.mp ha),
          List.idxOf_append_of_mem (List.mem_eraseDups.mp ha')]
      rw [eraseDups_concat]
      split
      case isTrue => exact hbefore
      case isFalse h =>
        refine List.pairwise_append.mpr ⟨hbefore, List.pairwise_singleton _ _, ?_⟩
        intro a ha a' ha'
        obtain rfl := List.mem_singleton.mp ha'
        have hmem : a ∈ as := List.mem_eraseDups.mp ha
        have hlt : as.idxOf a < as.length := List.idxOf_lt_length_of_mem hmem
        rw [List.idxOf_append_of_mem hmem, List.idxOf_append_of_notMem h]
        exact Nat.lt_add_right _ hlt

/-- Where keys are given once, an item is found by its key. -/
theorem find?_key_eq_some {α κ : Type} [BEq κ] [LawfulBEq κ] {key : α → κ} {xs : List α}
    (h : (xs.map key).Nodup) {x : α} (hx : x ∈ xs) : xs.find? (fun y => key y == key x) = some x := by
  induction xs with
  | nil => cases hx
  | cons y ys ih =>
      rw [List.map_cons, List.nodup_cons] at h
      rcases List.mem_cons.mp hx with rfl | hx
      · rw [List.find?_cons_of_pos (by simp)]
      · have hne : key y ≠ key x := fun heq => h.1 (heq ▸ List.mem_map_of_mem hx)
        rw [List.find?_cons_of_neg (by simpa using hne)]
        exact ih h.2 hx

/-- A list between two others repeats nothing if neither it nor they do, and it has nothing of theirs. -/
theorem nodup_between {α : Type} {lead middle trail : List α} (hmiddle : middle.Nodup)
    (hends : (lead ++ trail).Nodup) (hfree : ∀ a ∈ middle, a ∉ lead ++ trail) :
    (lead ++ middle ++ trail).Nodup := by
  have hperm : (lead ++ middle ++ trail).Perm (middle ++ (lead ++ trail)) := by
    rw [← List.append_assoc]
    exact List.perm_append_comm.append_right trail
  rw [hperm.nodup_iff, List.nodup_append]
  refine ⟨hmiddle, hends, ?_⟩
  rintro a ha _ hend rfl
  exact hfree a ha hend

/-! ### Characters

Whether all characters have a property can be decided by going through them all; for those of a list it is
enough to go through the list. -/

section

variable (P : Char → Prop) [DecidablePred P]

instance decidableForallChars (cs : List Char) : Decidable (∀ c ∈ cs, P c) := List.decidableBAll P cs

instance decidableExistsChars (cs : List Char) : Decidable (∃ c ∈ cs, P c) := List.decidableBEx P cs

instance decidableForallChar? (o : Option Char) : Decidable (∀ c ∈ o, P c) := Option.decidableForallMem o

end

theorem mapM_eq_none_of_mem {α β : Type} {f : α → Option β} {xs : List α} {x : α} (hx : x ∈ xs) (h : f x = none) :
    xs.mapM f = none := by
  induction xs with
  | nil => cases hx
  | cons y xs ih =>
      rw [List.mapM_cons]
      rcases List.mem_cons.mp hx with rfl | hx
      · rw [h]
        rfl
      · rw [ih hx]
        cases f y <;> rfl

end BalanceSheet
