import BalanceSheet.Proofs.Condition.Alike
import BalanceSheet.Proofs.Formula.Resolution
import BalanceSheet.Proofs.Query.Plans

/-!
Sources that differ in bound values only. The same groups under alike conditions are covered by sources of
the same shape: the same tables take part, and each source has the same columns and clauses over parameters
of the same types. Sources of one shape over parameters with the same labels have the same texts.
-/

namespace BalanceSheet

section

variable {α : Type} {R : α → α → Prop} {f : α → List Param} {xs ys : List α}

/-- Parts in step hold parameters of the same types. -/
theorem types_flatMap_eq (h : List.Forall₂ R xs ys)
    (htypes : ∀ x y, R x y → (f x).map Param.type = (f y).map Param.type) :
    (xs.flatMap f).map Param.type = (ys.flatMap f).map Param.type := by
  induction h with
  | nil => rfl
  | cons hxy _ ih =>
      rw [List.flatMap_cons, List.flatMap_cons, List.map_append, List.map_append, ih, htypes _ _ hxy]

/-- Parts in step whose parameters show the same labels in all show them part by part. -/
theorem labels_of_flatMap_eq (h : List.Forall₂ R xs ys)
    (htypes : ∀ x y, R x y → (f x).map Param.type = (f y).map Param.type)
    (heq : (xs.flatMap f).map Param.label = (ys.flatMap f).map Param.label) :
    List.Forall₂ (fun x y => R x y ∧ (f x).map Param.label = (f y).map Param.label) xs ys := by
  rw [List.map_flatMap, List.map_flatMap] at heq
  refine forall₂_of_flatMap_eq (fun x y hxy => ?_) h heq
  simpa using congrArg List.length (htypes x y hxy)

end

namespace Source

/-- Sources of one shape: the same but for the names and values of their parameters. -/
structure Alike (s s' : Source) : Prop where
  name : s.name = s'.name
  table : s.table = s'.table
  key : s.key = s'.key
  aggregates : s.aggregates = s'.aggregates
  clauses : List.Forall₂ Clause.Alike s.clauses s'.clauses

theorem Alike.types_eq {s s' : Source} (h : s.Alike s') :
    s.params.map Param.type = s'.params.map Param.type :=
  types_flatMap_eq h.clauses fun _ _ hcl => hcl.types_eq

theorem clauses_text_eq {cls cls' : List (Clause Param)} (h : List.Forall₂ Clause.Alike cls cls')
    (hlabels : (cls.flatMap Clause.values).map Param.label = (cls'.flatMap Clause.values).map Param.label) :
    cls.map Clause.text = cls'.map Clause.text := by
  rw [← List.forall₂_eq_eq_eq, List.forall₂_map_left_iff, List.forall₂_map_right_iff]
  exact (labels_of_flatMap_eq h (fun _ _ hcl => hcl.types_eq) hlabels).imp
    fun _ _ hcl => hcl.1.text_eq hcl.2

theorem Alike.toSelect_eq {s s' : Source} (h : s.Alike s')
    (hlabels : s.params.map Param.label = s'.params.map Param.label) : s.toSelect = s'.toSelect := by
  simp only [toSelect, h.table, h.key, h.aggregates, clauses_text_eq h.clauses hlabels]

/-- Reading the same table under alike conditions gives sources of one shape. -/
theorem Reads.alike {t : Table} {metrics : List BaseMetric} {cs cs' : List Condition}
    {dimension : Option Dimension} {period : Period} {s s' : Source} (hcs : Condition.AllAlike cs cs')
    (h : s.Reads t metrics cs dimension period) (h' : s'.Reads t metrics cs' dimension period) : s.Alike s' :=
  ⟨h.name.trans h'.name.symm, h.table.trans h'.table.symm, h.key.trans h'.key.symm,
    h.aggregates.trans h'.aggregates.symm, hcs.clauses h.clauses h'.clauses⟩

end Source

namespace Windows

/-- Windows with alike conditions. -/
structure Alike (w w' : Windows) : Prop where
  current : Condition.AllAlike w.current w'.current
  previous : Condition.AllAlike w.previous w'.previous

theorem alike_of_ofFilters {cs cs' : List Condition} {today today' : Date} {w w' : Windows}
    (hcs : Condition.AllAlike cs cs') (h : ofFilters cs today = .ok w) (h' : ofFilters cs' today' = .ok w') :
    w.Alike w' := by
  obtain ⟨rfl, hprevious⟩ := ofFilters_ok h
  obtain ⟨rfl, hprevious'⟩ := ofFilters_ok h'
  exact ⟨hcs, hcs.previousPeriod hprevious hprevious'⟩

end Windows

namespace Joined

structure Alike (j j' : Joined) : Prop where
  current : j.current.Alike j'.current
  previous : j.previous.Alike j'.previous

theorem Compares.alike {r : Registry} {w w' : Windows} {dimension : Option Dimension}
    {group : String × List BaseMetric} {j j' : Joined} (hw : w.Alike w')
    (h : j.Compares r w dimension group) (h' : j'.Compares r w' dimension group) : j.Alike j' := by
  obtain ⟨t, ht, hcurrent, hprevious⟩ := h.sources
  obtain ⟨t', ht', hcurrent', hprevious'⟩ := h'.sources
  rw [ht] at ht'
  cases ht'
  exact ⟨hcurrent.alike hw.current hcurrent', hprevious.alike hw.previous hprevious'⟩

end Joined

namespace Sources

structure Alike (s s' : Sources) : Prop where
  joined : List.Forall₂ Joined.Alike s.joined s'.joined
  skipped : s.skipped = s'.skipped

theorem takesPart_eq {w w' : Windows} (hw : w.Alike w') (r : Registry) (dimension : Option Dimension) :
    takesPart r w dimension = takesPart r w' dimension := by
  funext name
  simp only [takesPart, answers, hw.current.supported_eq]

theorem Covers.alike {r : Registry} {w w' : Windows} {dimension : Option Dimension} {groups : TableMetrics}
    {s s' : Sources} (hw : w.Alike w') (h : s.Covers r w dimension groups)
    (h' : s'.Covers r w' dimension groups) : s.Alike s' := by
  obtain ⟨hjoined, hskipped⟩ := h
  obtain ⟨hjoined', hskipped'⟩ := h'
  rw [← takesPart_eq hw] at hjoined' hskipped'
  exact ⟨forall₂_of_common (fun _ _ _ h h' => h.alike hw h') hjoined hjoined',
    hskipped.trans hskipped'.symm⟩

theorem Alike.all {s s' : Sources} (h : s.Alike s') : List.Forall₂ Source.Alike s.all s'.all := by
  apply forall₂_all_of_joined
  exact h.joined.imp fun _ _ hj => ⟨hj.current, hj.previous⟩

theorem Alike.types_eq {s s' : Sources} (h : s.Alike s') :
    s.params.map Param.type = s'.params.map Param.type := by
  rw [params_eq_all, params_eq_all]
  exact types_flatMap_eq h.all fun _ _ hs => hs.types_eq

theorem Alike.map_name_eq {β : Type} {s s' : Sources} (h : s.Alike s') (f : String → β) :
    (s.all.map fun source => f source.name) = s'.all.map fun source => f source.name :=
  Sources.map_name_eq (fun _ _ hs => hs.name) h.all f

/-- Sources of one shape, over parameters with the same labels, have the same texts. -/
theorem Alike.ctes_eq {s s' : Sources} (h : s.Alike s')
    (hlabels : s.params.map Param.label = s'.params.map Param.label) : s.ctes = s'.ctes := by
  rw [params_eq_all, params_eq_all] at hlabels
  rw [ctes, ctes, ← List.forall₂_eq_eq_eq, List.forall₂_map_left_iff, List.forall₂_map_right_iff]
  refine (labels_of_flatMap_eq h.all (fun _ _ hs => hs.types_eq) hlabels).imp ?_
  rintro source source' ⟨halike, hsame⟩
  rw [halike.name, halike.toSelect_eq hsame]

end Sources

end BalanceSheet
