import Mathlib.Data.List.Forall2

/-!
Steps that may fail, taken apart. A sequence succeeds when its first step does and then the rest from its
result, a guarded step when the guard holds, and a list of steps when each of them does. Steps that fail with
nothing but errors of some kind make a sequence that does.
-/

namespace BalanceSheet.Except

variable {ε α β : Type}

theorem bind_eq_ok_iff {x : Except ε α} {f : α → Except ε β} {b : β} :
    (x >>= f) = .ok b ↔ ∃ a, x = .ok a ∧ f a = .ok b := by
  cases x <;> simp [bind, Except.bind]

theorem map_eq_ok_iff {x : Except ε α} {f : α → β} {b : β} : x.map f = .ok b ↔ ∃ a, x = .ok a ∧ f a = b := by
  cases x <;> simp [Except.map]

theorem map_eq_error_iff {x : Except ε α} {f : α → β} {e : ε} : x.map f = .error e ↔ x = .error e := by
  cases x <;> simp [Except.map]

theorem mapError_eq_ok_iff {ε' : Type} {x : Except ε α} {f : ε → ε'} {a : α} :
    x.mapError f = .ok a ↔ x = .ok a := by
  cases x <;> simp [Except.mapError]

/-- A check and then another step. -/
theorem check_then_eq_ok_iff {x : Except ε Unit} {y : Except ε β} {b : β} :
    (x >>= fun _ => y) = .ok b ↔ x = .ok () ∧ y = .ok b := by
  rw [bind_eq_ok_iff]
  constructor
  · rintro ⟨⟨⟩, hx, hy⟩
    exact ⟨hx, hy⟩
  · rintro ⟨hx, hy⟩
    exact ⟨(), hx, hy⟩

theorem guard_eq_ok_iff {p : Prop} [Decidable p] {e : ε} {x : Except ε β} {b : β} :
    (if p then x else .error e) = .ok b ↔ p ∧ x = .ok b := by
  by_cases hp : p <;> simp [hp]

theorem refuse_eq_ok_iff {p : Prop} [Decidable p] {e : ε} {x : Except ε β} {b : β} :
    (if p then .error e else x) = .ok b ↔ ¬ p ∧ x = .ok b := by
  by_cases hp : p <;> simp [hp]

/-- Checks in a row find no fault when none of them does. -/
theorem refuse_eq_none_iff {p : Prop} [Decidable p] {fault : ε} {x : Option ε} :
    (if p then some fault else x) = none ↔ ¬ p ∧ x = none := by
  by_cases hp : p <;> simp [hp]

theorem mapM_ok {f : α → Except ε β} {xs : List α} {ys : List β} (h : xs.mapM f = .ok ys) :
    List.Forall₂ (fun x y => f x = .ok y) xs ys := by
  induction xs generalizing ys with
  | nil =>
      cases h
      exact .nil
  | cons x xs ih =>
      rw [List.mapM_cons] at h
      obtain ⟨y, hy, h⟩ := bind_eq_ok_iff.mp h
      obtain ⟨rest, hrest, h⟩ := bind_eq_ok_iff.mp h
      cases h
      exact .cons hy (ih hrest)

theorem mapM_of_forall₂ {f : α → Except ε β} {xs : List α} {ys : List β}
    (h : List.Forall₂ (fun x y => f x = .ok y) xs ys) : xs.mapM f = .ok ys := by
  induction h with
  | nil => rfl
  | cons hxy _ ih =>
      rw [List.mapM_cons, hxy, ih]
      rfl

/-- A list of steps fails as the first of them that fails. -/
theorem mapM_eq_error_iff {f : α → Except ε β} {xs : List α} {e : ε} :
    xs.mapM f = .error e ↔ ∃ x, xs.find? (fun x => !(f x).isOk) = some x ∧ f x = .error e := by
  induction xs with
  | nil => simp [pure, Except.pure]
  | cons x xs ih =>
      rw [List.mapM_cons, List.find?_cons]
      cases hx : f x with
      | error e' => simp [bind, Except.bind, Except.isOk, Except.toBool, hx]
      | ok y =>
          have hsucceeds : (.ok y : Except ε β).isOk = true := rfl
          simp only [hsucceeds, Bool.not_true]
          rw [← ih]
          cases xs.mapM f <;> simp [bind, Except.bind, pure, Except.pure]

theorem mapM_singleton (f : α → Except ε β) (a : α) : [a].mapM f = (f a).map fun b => [b] := by
  rw [List.mapM_cons]
  cases f a <;> rfl

theorem option_mapM_ok {f : α → Except ε β} {o : Option α} {o' : Option β} (h : o.mapM f = .ok o') :
    Option.Rel (fun a b => f a = .ok b) o o' := by
  cases o with
  | none =>
      cases h
      exact .none
  | some a =>
      obtain ⟨b, hb, rfl⟩ := map_eq_ok_iff.mp h
      exact .some hb

theorem option_mapM_of_rel {f : α → Except ε β} {o : Option α} {o' : Option β}
    (h : Option.Rel (fun a b => f a = .ok b) o o') : o.mapM f = .ok o' := by
  cases h with
  | none => rfl
  | some hab => exact map_eq_ok_iff.mpr ⟨_, hab, rfl⟩

theorem exists_of_isOk {e : Except ε α} (h : e.isOk = true) : ∃ x, e = .ok x := by
  cases e with
  | error => cases h
  | ok x => exact ⟨x, rfl⟩

/-- What was computed of a result is computed of a result that is there. -/
theorem exists_of_map {e : Except ε α} {f : α → β} {b : β} (h : e.toOption.map f = some b) :
    ∃ x, e = .ok x ∧ f x = b := by
  cases e with
  | error => cases h
  | ok x => exact ⟨x, rfl, Option.some.inj h⟩

theorem exists_some_of_map {e : Except ε (Option α)} {f : α → β} {b : β}
    (h : e.toOption.join.map f = some b) : ∃ x, e = .ok (some x) ∧ f x = b := by
  cases e with
  | error => cases h
  | ok o =>
      cases o with
      | none => cases h
      | some x => exact ⟨x, rfl, Option.some.inj h⟩

/-- Where both are results or neither is, and results are related, so are the two. -/
theorem rel_toOption {ε' : Type} {R : α → β → Prop} {x : Except ε α} {y : Except ε' β}
    (hiff : (∃ a, x = .ok a) ↔ ∃ b, y = .ok b) (hR : ∀ a b, x = .ok a → y = .ok b → R a b) :
    Option.Rel R x.toOption y.toOption := by
  cases x with
  | error e =>
      cases y with
      | error e' => exact .none
      | ok b => simp at hiff
  | ok a =>
      cases y with
      | error e' => simp at hiff
      | ok b => exact .some (hR a b rfl rfl)

theorem exists_of_rel_toOption {ε' : Type} {R : α → β → Prop} {x : Except ε α} {y : Except ε' β} {a : α}
    (h : Option.Rel R x.toOption y.toOption) (ha : x = .ok a) : ∃ b, y = .ok b ∧ R a b := by
  subst ha
  cases y with
  | error e => cases h
  | ok b =>
      cases h with
      | some h => exact ⟨b, rfl, h⟩

/-! ### What steps fail with -/

section

variable {ε' : Type} {P : ε → Prop} {x : Except ε α}

/-- Whatever it fails with has the property. -/
def FailsWith (P : ε → Prop) (x : Except ε α) : Prop := ∀ e, x = .error e → P e

theorem failsWith_ok (a : α) : FailsWith P (.ok a) := nofun

theorem failsWith_error {e : ε} (h : P e) : FailsWith P (.error e : Except ε α) := by
  rintro _ ⟨⟩
  exact h

theorem FailsWith.imp {Q : ε → Prop} (hx : FailsWith P x) (h : ∀ e, P e → Q e) : FailsWith Q x :=
  fun e he => h e (hx e he)

theorem FailsWith.bind {f : α → Except ε β} (hx : FailsWith P x) (hf : ∀ a, FailsWith P (f a)) :
    FailsWith P (x >>= f) := by
  cases x with
  | error e => exact failsWith_error (hx e rfl)
  | ok a => exact hf a

theorem FailsWith.map (hx : FailsWith P x) (f : α → β) : FailsWith P (x.map f) := by
  cases x with
  | error e => exact failsWith_error (hx e rfl)
  | ok a => exact failsWith_ok (f a)

theorem FailsWith.mapError {Q : ε' → Prop} (hx : FailsWith P x) {f : ε → ε'} (hf : ∀ e, P e → Q (f e)) :
    FailsWith Q (x.mapError f) := by
  cases x with
  | error e => exact failsWith_error (hf e (hx e rfl))
  | ok a => exact failsWith_ok a

theorem FailsWith.mapM {f : α → Except ε β} {as : List α} (hf : ∀ a ∈ as, FailsWith P (f a)) :
    FailsWith P (as.mapM f) := by
  induction as with
  | nil => exact failsWith_ok []
  | cons a as ih =>
      rw [List.forall_mem_cons] at hf
      rw [List.mapM_cons]
      exact hf.1.bind fun b => (ih hf.2).bind fun bs => failsWith_ok (b :: bs)

theorem FailsWith.option_mapM {f : α → Except ε β} (hf : ∀ a, FailsWith P (f a)) (o : Option α) :
    FailsWith P (o.mapM f) := by
  cases o with
  | none => exact failsWith_ok none
  | some a => exact (hf a).map some

end

end BalanceSheet.Except
