import BalanceSheet.Condition.Clause
import BalanceSheet.Proofs.Except
import BalanceSheet.Proofs.Params.Growth

/-!
Runs of bindings that succeed, taken apart step by step. A sequence succeeds when its first step does and
then its second from the parameters that the first one leaves; a list of steps succeeds when each of them
does in turn, and then grows the parameters by what its steps add, in order. A list of steps that fails has one that
fails after those before it. Steps that succeed from any parameters make a sequence that does, and so do steps
that fail with nothing but failures of some kind; and no step changes what was bound before it.
-/

namespace BalanceSheet.Binding

variable {α β : Type} {ps qs : Params}

theorem run_pure_ok {x y : α} (h : (pure x : Binding α).run ps = (.ok y, qs)) : x = y ∧ ps = qs := by
  cases h
  exact ⟨rfl, rfl⟩

theorem run_fail_ne_ok {f : Failure} {x : α} (h : (fail f).run ps = (.ok x, qs)) : False := by
  cases h

theorem run_ofExcept_ok {e : Except Failure α} {x : α} (h : (ofExcept e).run ps = (.ok x, qs)) :
    e = .ok x ∧ ps = qs := by
  cases h
  exact ⟨rfl, rfl⟩

/-- A result that is there is handed on. -/
theorem ofExcept_ok_bind (x : α) (f : α → Binding β) : (ofExcept (.ok x) >>= f) = f x := rfl

theorem run_bind (b : Binding α) (f : α → Binding β) (ps : Params) :
    (b >>= f).run ps =
      match b.run ps with
      | (.ok x, ps') => (f x).run ps'
      | (.error e, ps') => (.error e, ps') := by
  show (ExceptT.run (b >>= f)).run ps = _
  rw [ExceptT.run_bind, StateT.run_bind]
  simp only [run]
  rcases (ExceptT.run b).run ps with ⟨_ | x, ps'⟩ <;> rfl

theorem run_bind_ok {b : Binding α} {f : α → Binding β} {y : β}
    (h : (b >>= f).run ps = (.ok y, qs)) :
    ∃ x ps', b.run ps = (.ok x, ps') ∧ (f x).run ps' = (.ok y, qs) := by
  rw [run_bind] at h
  split at h
  case h_1 x ps' hb => exact ⟨x, ps', hb, h⟩
  case h_2 => cases h

/-- A step followed by a return of something made from its result. -/
theorem run_map_ok {b : Binding α} {f : α → β} {y : β}
    (h : (do return f (← b) : Binding β).run ps = (.ok y, qs)) :
    ∃ x, b.run ps = (.ok x, qs) ∧ y = f x := by
  obtain ⟨x, ps', hb, hf⟩ := run_bind_ok h
  obtain ⟨rfl, rfl⟩ := run_pure_ok hf
  exact ⟨x, hb, rfl⟩

theorem run_bind_error {b : Binding α} {f : α → Binding β} {e : Failure}
    (h : (b >>= f).run ps = (.error e, qs)) :
    b.run ps = (.error e, qs) ∨ ∃ x ps', b.run ps = (.ok x, ps') ∧ (f x).run ps' = (.error e, qs) := by
  rw [run_bind] at h
  split at h
  case h_1 x ps' hb => exact .inr ⟨x, ps', hb, h⟩
  case h_2 e' ps' hb =>
    cases h
    exact .inl hb

theorem run_bindParam_ok {type : ValueType} {value : String} {p : Param}
    (h : (bind type value).run ps = (.ok p, qs)) :
    p.content = (type, value) ∧ ps.Grows qs [p] := by
  cases h
  exact ⟨rfl, .bind ps type value⟩

/-- If each step turns its item into a result that it stands in `P` with, and adds the parameters `g` of
that result, so does the whole list. -/
theorem run_mapM_ok {f : α → Binding β} {P : α → β → Prop} {g : β → List Param} {xs : List α}
    (hf : ∀ x ∈ xs, ∀ ps qs y, (f x).run ps = (.ok y, qs) → P x y ∧ ps.Grows qs (g y)) {ys : List β}
    (h : (xs.mapM f).run ps = (.ok ys, qs)) :
    List.Forall₂ P xs ys ∧ ps.Grows qs (ys.flatMap g) := by
  induction xs generalizing ps ys with
  | nil =>
      rw [List.mapM_nil] at h
      obtain ⟨rfl, rfl⟩ := run_pure_ok h
      exact ⟨.nil, .refl ps⟩
  | cons x xs ih =>
      rw [List.mapM_cons] at h
      obtain ⟨y, ps', hy, htail⟩ := run_bind_ok h
      obtain ⟨rest, hrest, rfl⟩ := run_map_ok htail
      obtain ⟨hP, hgrow⟩ := hf x (List.mem_cons_self ..) _ _ _ hy
      obtain ⟨hPs, hgrows⟩ := ih (fun x' hx' => hf x' (List.mem_cons_of_mem _ hx')) hrest
      exact ⟨.cons hP hPs, hgrow.trans hgrows⟩

/-- A list of steps fails at one of its items, from what the items before it leave. -/
theorem run_mapM_error {f : α → Binding β} {xs : List α} {e : Failure}
    (h : (xs.mapM f).run ps = (.error e, qs)) :
    ∃ before x after ys ps', xs = before ++ x :: after ∧ (before.mapM f).run ps = (.ok ys, ps') ∧
      (f x).run ps' = (.error e, qs) := by
  induction xs generalizing ps with
  | nil => cases h
  | cons x xs ih =>
      rw [List.mapM_cons] at h
      rcases run_bind_error h with hx | ⟨y, ps₁, hy, htail⟩
      · exact ⟨[], x, xs, [], ps, rfl, rfl, hx⟩
      · rcases run_bind_error htail with hrest | ⟨_, _, _, hpure⟩
        · obtain ⟨before, x', after, ys, ps', rfl, hbefore, hfails⟩ := ih hrest
          refine ⟨x :: before, x', after, y :: ys, ps', rfl, ?_, hfails⟩
          rw [List.mapM_cons, run_bind, hy]
          simp only [run_bind, hbefore]
          rfl
        · cases hpure

/-! ### Steps that always succeed -/

/-- The step succeeds, whatever was bound before. -/
def Succeeds (b : Binding α) : Prop := ∀ ps, ∃ x qs, b.run ps = (.ok x, qs)

theorem Succeeds.pure (x : α) : (pure x : Binding α).Succeeds := fun ps => ⟨x, ps, rfl⟩

theorem Succeeds.bind {b : Binding α} {f : α → Binding β} (hb : b.Succeeds) (hf : ∀ x, (f x).Succeeds) :
    (b >>= f).Succeeds := by
  intro ps
  obtain ⟨x, ps', hrun⟩ := hb ps
  obtain ⟨y, qs, hrest⟩ := hf x ps'
  refine ⟨y, qs, ?_⟩
  rw [run_bind, hrun]
  exact hrest

theorem Succeeds.of_bind {b : Binding α} {f : α → Binding β} (h : (b >>= f).Succeeds) : b.Succeeds := by
  intro ps
  obtain ⟨y, qs, hrun⟩ := h ps
  obtain ⟨x, ps', hb, -⟩ := run_bind_ok hrun
  exact ⟨x, ps', hb⟩

/-- A result that is there is handed on. -/
theorem Succeeds.ofExcept_bind {e : Except Failure α} {x : α} (he : e = .ok x) {f : α → Binding β}
    (hf : (f x).Succeeds) : (ofExcept e >>= f).Succeeds := by
  subst he
  exact hf

theorem Succeeds.mapM {f : α → Binding β} {xs : List α} (h : ∀ x ∈ xs, (f x).Succeeds) :
    (xs.mapM f).Succeeds := by
  induction xs with
  | nil =>
      rw [List.mapM_nil]
      exact .pure []
  | cons x xs ih =>
      rw [List.forall_mem_cons] at h
      rw [List.mapM_cons]
      exact h.1.bind fun y => (ih h.2).bind fun ys => .pure (y :: ys)

theorem succeeds_bind (type : ValueType) (value : String) : (Binding.bind type value).Succeeds :=
  fun _ => ⟨_, _, rfl⟩

/-! ### What steps fail with -/

section

variable {P : Failure → Prop}

/-- Whatever the step fails with has the property, whatever was bound before. -/
def FailsWith (P : Failure → Prop) (b : Binding α) : Prop := ∀ ps, Except.FailsWith P (b.run ps).1

theorem failsWith_pure (a : α) : FailsWith P (pure a : Binding α) := fun _ => Except.failsWith_ok a

theorem failsWith_fail {f : Failure} (h : P f) : FailsWith P (fail f : Binding α) :=
  fun _ => Except.failsWith_error h

theorem failsWith_ofExcept {e : Except Failure α} (h : Except.FailsWith P e) : FailsWith P (ofExcept e) :=
  fun _ => h

theorem failsWith_bind (type : ValueType) (value : String) : FailsWith P (Binding.bind type value) :=
  fun _ => Except.failsWith_ok _

theorem Succeeds.failsWith {b : Binding α} (h : b.Succeeds) : FailsWith P b := by
  intro ps
  obtain ⟨x, qs, hrun⟩ := h ps
  rw [hrun]
  exact Except.failsWith_ok x

theorem FailsWith.imp {Q : Failure → Prop} {b : Binding α} (hb : FailsWith P b) (h : ∀ f, P f → Q f) :
    FailsWith Q b :=
  fun ps => (hb ps).imp h

/-- What comes after a step may rely on its success. -/
theorem FailsWith.bind_of_run {b : Binding α} {f : α → Binding β} (hb : FailsWith P b)
    (hf : ∀ ps a qs, b.run ps = (.ok a, qs) → FailsWith P (f a)) : FailsWith P (b >>= f) := by
  intro ps
  have hrun := hb ps
  rw [run_bind]
  split
  case h_1 a ps' hok => exact hf ps a ps' hok ps'
  case h_2 e ps' hfails => exact Except.failsWith_error (hrun e (by rw [hfails]))

theorem FailsWith.bind {b : Binding α} {f : α → Binding β} (hb : FailsWith P b) (hf : ∀ a, FailsWith P (f a)) :
    FailsWith P (b >>= f) :=
  hb.bind_of_run fun _ a _ _ => hf a

theorem failsWith_ofExcept_bind {e : Except Failure α} {f : α → Binding β} (he : Except.FailsWith P e)
    (hf : ∀ a, e = .ok a → FailsWith P (f a)) : FailsWith P (ofExcept e >>= f) :=
  (failsWith_ofExcept he).bind_of_run fun _ a _ hrun => hf a (run_ofExcept_ok hrun).1

theorem FailsWith.mapM {f : α → Binding β} {as : List α} (hf : ∀ a ∈ as, FailsWith P (f a)) :
    FailsWith P (as.mapM f) := by
  induction as with
  | nil =>
      rw [List.mapM_nil]
      exact failsWith_pure []
  | cons a as ih =>
      rw [List.forall_mem_cons] at hf
      rw [List.mapM_cons]
      exact hf.1.bind fun b => (ih hf.2).bind fun bs => failsWith_pure (b :: bs)

end

/-! ### What steps leave bound -/

/-- Whether it succeeds or fails, the step leaves the parameters as they are and adds others behind them, each
named by a number. -/
def Appends (b : Binding α) : Prop :=
  ∀ ps, ∃ added, (b.run ps).2.toList = ps.toList ++ added ∧ ∀ p ∈ added, ∃ k, p.name = Params.indexName k

theorem appends_pure (a : α) : (pure a : Binding α).Appends := fun ps => ⟨[], (List.append_nil ps.toList).symm, by simp⟩

theorem appends_fail (f : Failure) : (fail f : Binding α).Appends :=
  fun ps => ⟨[], (List.append_nil ps.toList).symm, by simp⟩

theorem appends_bind (type : ValueType) (value : String) : (Binding.bind type value).Appends :=
  fun ps => ⟨[(ps.bind type value).1], rfl, fun _ hp => ⟨_, congrArg Param.name (List.mem_singleton.mp hp)⟩⟩

theorem Appends.bind {b : Binding α} {f : α → Binding β} (hb : b.Appends) (hf : ∀ a, (f a).Appends) :
    (b >>= f).Appends := by
  intro ps
  obtain ⟨added, hadded, hnamed⟩ := hb ps
  rw [run_bind]
  split
  case h_1 a ps' hrun =>
    obtain ⟨more, hmore, hnamed'⟩ := hf a ps'
    rw [hrun] at hadded
    refine ⟨added ++ more, by rw [hmore, hadded, List.append_assoc], ?_⟩
    exact List.forall_mem_append.mpr ⟨hnamed, hnamed'⟩
  case h_2 e ps' hrun =>
    rw [hrun] at hadded
    exact ⟨added, hadded, hnamed⟩

theorem Appends.mapM {f : α → Binding β} {as : List α} (hf : ∀ a ∈ as, (f a).Appends) : (as.mapM f).Appends := by
  induction as with
  | nil =>
      rw [List.mapM_nil]
      exact appends_pure []
  | cons a as ih =>
      rw [List.forall_mem_cons] at hf
      rw [List.mapM_cons]
      exact hf.1.bind fun b => (ih hf.2).bind fun bs => appends_pure (b :: bs)

end BalanceSheet.Binding
