import BalanceSheet.Proofs.Formula.Resolution
import BalanceSheet.Proofs.Formula.Substitution
import BalanceSheet.Proofs.Text.Braces

/-!
Substitution in one go. The dependencies of a formula are replaced in turn, each in the text that the ones before
it have left. In a formula where no brace opens within another, what stands in braces is a row of parts, each the
placeholder of one name at most; replacing a name takes its parts away and leaves the others as they are, since no
reference opens a brace. So the expression is the formula with all placeholders replaced at once, and it does not
depend on the order of the dependencies or on how often they are declared.
-/

namespace BalanceSheet

/-- No reference opens a brace. -/
def Aliases.RefersPlainly (aliases : Aliases) : Prop :=
  ∀ name reference, Sorted.get? aliases name = some reference → Text.Plain reference.text

theorem Aliases.RefersPlainly.reference {aliases : Aliases} (h : aliases.RefersPlainly) {name : String}
    (hname : Text.Plain name) : Text.Plain (aliases.reference name).text := by
  rw [Aliases.reference]
  cases hget : Sorted.get? aliases name with
  | none => exact hname
  | some reference => exact h name reference hget

namespace CalculatedMetric

open Text

/-- From left to right and in one go, every placeholder for one of the names is replaced by the reference of the
name, and every character that starts none is kept. -/
inductive ReplacesAtOnce (aliases : Aliases) (names : List String) : List Char → List Char → Prop
  | done : ReplacesAtOnce aliases names [] []
  | replace {name : String} {rest result : List Char} (hname : name ∈ names)
      (h : ReplacesAtOnce aliases names rest result) :
      ReplacesAtOnce aliases names ((placeholder name).toList ++ rest)
        ((aliases.reference name).text.toList ++ result)
  | keep {c : Char} {rest result : List Char} (hnone : ∀ name ∈ names, ¬ (placeholder name).toList <+: c :: rest)
      (h : ReplacesAtOnce aliases names rest result) : ReplacesAtOnce aliases names (c :: rest) (c :: result)

/-- Dependencies whose names have no brace, and a formula in which no brace opens within another. -/
structure Flat (m : CalculatedMetric) : Prop where
  dependencies : ∀ name ∈ m.dependencies, Unbraced name.toList
  formula : Unnested m.formula.toList

/-- Declared again with other dependencies: if they are not the same, the metric is flat and they are the same names
in some order, some of them perhaps repeated. -/
def Redeclares (m m' : CalculatedMetric) : Prop :=
  ∃ names, m' = { m with dependencies := names } ∧
    (names = m.dependencies ∨ m.Flat ∧ ∀ name, name ∈ names ↔ name ∈ m.dependencies)

variable {aliases : Aliases} {m m' : CalculatedMetric} {metrics metrics' : List CalculatedMetric}
  {names names' : List String} {cs front inside rest result result' : List Char}

/-! ### At once -/

/-- A text starts with the placeholder of one name at most. -/
theorem eq_of_prefix_placeholder {name name' : String} (hname : Unbraced name.toList) (hname' : Unbraced name'.toList)
    (h : (placeholder name).toList <+: (placeholder name').toList ++ rest) : name = name' := by
  rw [toList_placeholder, toList_placeholder, List.cons_append, List.cons_prefix_cons, List.append_assoc] at h
  exact String.toList_injective (Spells.eq_of_prefix_part hname hname' h.2)

namespace ReplacesAtOnce

/-- Only which names there are matters. -/
theorem congr (hnames : ∀ name, name ∈ names ↔ name ∈ names') (h : ReplacesAtOnce aliases names cs result) :
    ReplacesAtOnce aliases names' cs result := by
  induction h with
  | done => exact .done
  | replace hname _ ih => exact .replace ((hnames _).mp hname) ih
  | keep hnone _ ih => exact .keep (fun name hname => hnone name ((hnames name).mpr hname)) ih

/-- No placeholder starts before the first opening brace. -/
theorem keep_front (hfront : '{' ∉ front) (h : ReplacesAtOnce aliases names cs result) :
    ReplacesAtOnce aliases names (front ++ cs) (front ++ result) := by
  induction front with
  | nil => exact h
  | cons c front ih =>
      rw [List.mem_cons, not_or] at hfront
      refine .keep ?_ (ih hfront.2)
      intro name _ hstart
      rw [toList_placeholder] at hstart
      exact hfront.1 (List.cons_prefix_cons.mp hstart).1

theorem keep_plain (hplain : '{' ∉ cs) : ReplacesAtOnce aliases names cs cs := by
  have hkept : ReplacesAtOnce aliases names (cs ++ []) (cs ++ []) := keep_front hplain .done
  rwa [List.append_nil] at hkept

/-- A part that no name has is kept. -/
theorem keep_part (hnames : ∀ name ∈ names, Unbraced name.toList) (hinside : Unbraced inside)
    (hother : ∀ name ∈ names, inside ≠ name.toList) (h : ReplacesAtOnce aliases names rest result) :
    ReplacesAtOnce aliases names ('{' :: (inside ++ '}' :: rest)) ('{' :: (inside ++ '}' :: result)) := by
  have hclose : '{' ∉ inside ++ ['}'] := by simp [hinside.1]
  have hkept := keep_front hclose h
  rw [List.append_assoc, List.append_assoc] at hkept
  refine .keep ?_ hkept
  intro name hname hstart
  rw [toList_placeholder, List.cons_prefix_cons] at hstart
  exact hother name hname (Spells.eq_of_prefix_part (hnames name hname) hinside hstart.2).symm

/-- A brace that is not closed is kept with all that is behind it. -/
theorem keep_unclosed (htail : Unbraced rest) : ReplacesAtOnce aliases names ('{' :: rest) ('{' :: rest) := by
  refine .keep ?_ (keep_plain htail.1)
  intro name _ hstart
  rw [toList_placeholder, List.cons_prefix_cons] at hstart
  exact htail.2 (hstart.2.subset (by simp))

/-- There is one result. -/
theorem unique (hnames : ∀ name ∈ names, Unbraced name.toList) (h : ReplacesAtOnce aliases names cs result)
    (h' : ReplacesAtOnce aliases names cs result') : result = result' := by
  -- the text of the second derivation is a variable of its own, as a placeholder is not given by its characters
  induction h generalizing result' with
  | done =>
      generalize hcs : [] = cs at h'
      cases h' with
      | done => rfl
      | replace => simp [toList_placeholder] at hcs
      | keep => cases hcs
  | @replace name rest result hname _ ih =>
      generalize hcs : (placeholder name).toList ++ rest = cs at h'
      cases h' with
      | done => simp [toList_placeholder] at hcs
      | @replace name' rest' result' hname' h' =>
          have hstart : (placeholder name).toList <+: (placeholder name').toList ++ rest' := ⟨rest, hcs⟩
          obtain rfl := eq_of_prefix_placeholder (hnames name hname) (hnames name' hname') hstart
          obtain rfl := List.append_cancel_left hcs
          rw [ih h']
      | keep hnone => exact absurd ⟨rest, hcs⟩ (hnone name hname)
  | @keep c rest result hnone _ ih =>
      generalize hcs : c :: rest = cs at h'
      cases h' with
      | done => cases hcs
      | @replace name' rest' result' hname' => exact absurd ⟨rest', hcs.symm⟩ (hnone name' hname')
      | keep _ h' =>
          obtain ⟨rfl, rfl⟩ := List.cons.inj hcs
          rw [ih h']

end ReplacesAtOnce

/-! ### In turn -/

/-- The text with the names replaced one after the other. -/
def replaceInTurn (aliases : Aliases) (names : List String) (cs : List Char) : List Char :=
  names.foldl
    (fun cs name => replaceFrom ('{' :: (name.toList ++ ['}'])) (aliases.reference name).text.toList 0 cs) cs

theorem toList_substitute (text : String) :
    (substitute aliases names text).toList = replaceInTurn aliases names text.toList := by
  induction names generalizing text with
  | nil => rfl
  | cons name names ih =>
      rw [substitute, List.foldl_cons]
      refine (ih _).trans ?_
      rw [toList_replace]
      rfl

/-- Nothing changes before the first opening brace. -/
theorem replaceInTurn_front (hfront : '{' ∉ front) (cs : List Char) :
    replaceInTurn aliases names (front ++ cs) = front ++ replaceInTurn aliases names cs := by
  induction names generalizing cs with
  | nil => rfl
  | cons name names ih =>
      rw [replaceInTurn, List.foldl_cons, Spells.replaceFrom_plain hfront]
      exact ih _

/-- A text that no replacement changes stays. -/
theorem replaceInTurn_eq_self
    (h : ∀ name replacement, replaceFrom ('{' :: (name ++ ['}'])) replacement 0 cs = cs) :
    replaceInTurn aliases names cs = cs := by
  induction names with
  | nil => rfl
  | cons name names ih =>
      rw [replaceInTurn, List.foldl_cons, h]
      exact ih

/-- A part that no name has stays, whatever is replaced behind it. -/
theorem replaceInTurn_other (hnames : ∀ name ∈ names, Unbraced name.toList) (hinside : Unbraced inside)
    (hother : ∀ name ∈ names, inside ≠ name.toList) (rest : List Char) :
    replaceInTurn aliases names ('{' :: (inside ++ '}' :: rest)) =
      '{' :: (inside ++ '}' :: replaceInTurn aliases names rest) := by
  induction names generalizing rest with
  | nil => rfl
  | cons name names ih =>
      rw [List.forall_mem_cons] at hnames hother
      rw [replaceInTurn, List.foldl_cons, Spells.replaceFrom_other hnames.1 hinside hother.1]
      exact ih hnames.2 hother.2 _

/-- A part that is a name stays until the turn of the name, and its reference stays from then on. -/
theorem replaceInTurn_part (hnames : ∀ name ∈ names, Unbraced name.toList ∧ Plain (aliases.reference name).text)
    {name : String} (hname : name ∈ names) (rest : List Char) :
    replaceInTurn aliases names ('{' :: (name.toList ++ '}' :: rest)) =
      (aliases.reference name).text.toList ++ replaceInTurn aliases names rest := by
  induction names generalizing rest with
  | nil => cases hname
  | cons first names ih =>
      rw [List.forall_mem_cons] at hnames
      rw [replaceInTurn, List.foldl_cons, replaceInTurn, List.foldl_cons]
      by_cases heq : name = first
      · subst heq
        rw [Spells.replaceFrom_part]
        exact replaceInTurn_front hnames.1.2 _
      · have hmem : name ∈ names := (List.mem_cons.mp hname).resolve_left heq
        have hne : name.toList ≠ first.toList := fun hlist => heq (String.toList_injective hlist)
        rw [Spells.replaceFrom_other hnames.1.1 (hnames.2 name hmem).1 hne]
        exact ih hnames.2 hmem _

/-- In an unnested text, replacing the names in turn replaces them at once. -/
theorem replacesAtOnce_replaceInTurn
    (hnames : ∀ name ∈ names, Unbraced name.toList ∧ Plain (aliases.reference name).text) (hcs : Unnested cs) :
    ReplacesAtOnce aliases names cs (replaceInTurn aliases names cs) := by
  have hunbraced : ∀ name ∈ names, Unbraced name.toList := fun name hname => (hnames name hname).1
  induction cs using parts_induction with
  | plain cs hplain =>
      rw [replaceInTurn_eq_self fun _ _ => Spells.replaceFrom_of_not_mem hplain]
      exact .keep_plain hplain
  | unclosed front tail hfront htail =>
      have hinside : Unnested (front ++ '{' :: (tail ++ [])) := by rwa [List.append_nil]
      have htail : Unbraced tail := hinside.unbraced htail
      rw [replaceInTurn_front hfront, replaceInTurn_eq_self fun _ _ => Spells.replaceFrom_unclosed htail]
      exact .keep_front hfront (.keep_unclosed htail)
  | part front inside rest hfront hclosing ih =>
      -- the inside has no brace, so it is one name or none, and what is behind it starts afresh
      have hinside : Unbraced inside := hcs.unbraced hclosing
      have hrest := ih (hcs.mono ⟨front ++ '{' :: (inside ++ ['}']), [], by simp⟩)
      rw [replaceInTurn_front hfront]
      refine .keep_front hfront ?_
      by_cases hdeclared : ∃ name ∈ names, inside = name.toList
      · obtain ⟨name, hname, rfl⟩ := hdeclared
        rw [replaceInTurn_part hnames hname]
        have hreplaced := ReplacesAtOnce.replace hname hrest
        rwa [toList_placeholder, List.cons_append, List.append_assoc] at hreplaced
      · have hother : ∀ name ∈ names, inside ≠ name.toList := by
          intro name hname heq
          exact hdeclared ⟨name, hname, heq⟩
        rw [replaceInTurn_other hunbraced hinside hother]
        exact .keep_part hunbraced hinside hother hrest

/-- The expression of a flat metric is the one text that comes of its formula. -/
theorem Flat.replacesAtOnce_iff (h : m.Flat) (haliases : aliases.RefersPlainly) :
    ReplacesAtOnce aliases m.dependencies m.formula.toList result ↔ result = (m.resolve aliases).expr.toList := by
  have hnames : ∀ name ∈ m.dependencies, Unbraced name.toList ∧ Plain (aliases.reference name).text :=
    fun name hname => ⟨h.dependencies name hname, haliases.reference (h.dependencies name hname).1⟩
  have hexpr : ReplacesAtOnce aliases m.dependencies m.formula.toList (m.resolve aliases).expr.toList := by
    rw [resolve, toList_substitute]
    exact replacesAtOnce_replaceInTurn hnames h.formula
  constructor
  · exact fun hresult => hresult.unique h.dependencies hexpr
  · rintro rfl
    exact hexpr

/-! ### Declared again -/

namespace Redeclares

theorem name_eq (h : Redeclares m m') : m'.name = m.name := by
  obtain ⟨names, rfl, -⟩ := h
  rfl

theorem mem_dependencies_iff (h : Redeclares m m') {name : String} :
    name ∈ m'.dependencies ↔ name ∈ m.dependencies := by
  obtain ⟨names, rfl, rfl | ⟨-, hmem⟩⟩ := h
  · rfl
  · exact hmem name

theorem resolve_eq (h : Redeclares m m') (haliases : aliases.RefersPlainly) :
    m'.resolve aliases = m.resolve aliases := by
  obtain ⟨names, rfl, rfl | ⟨hflat, hmem⟩⟩ := h
  · rfl
  · have hflat' : Flat { m with dependencies := names } :=
      ⟨fun name hname => hflat.dependencies name ((hmem name).mp hname), hflat.formula⟩
    have hexpr := (hflat'.replacesAtOnce_iff haliases).mpr rfl
    have heq := (hflat.replacesAtOnce_iff haliases).mp (hexpr.congr hmem)
    exact congrArg (ResolvedMetric.mk m.name) (String.toList_injective heq)

theorem satisfied_eq (h : Redeclares m m') (known : List String) :
    m'.satisfied aliases known = m.satisfied aliases known := by
  rw [satisfied, satisfied, Bool.eq_iff_iff, List.all_eq_true, List.all_eq_true]
  exact forall_congr' fun name => imp_congr_left h.mem_dependencies_iff

end Redeclares

/-- A round resolves the same. -/
theorem resolveRound_redeclares (haliases : aliases.RefersPlainly) (h : List.Forall₂ Redeclares metrics metrics')
    (known added : List String) :
    resolveRound aliases known added metrics' = resolveRound aliases known added metrics := by
  induction h generalizing added with
  | nil => rfl
  | cons hm _ ih =>
      rw [resolveRound, resolveRound, hm.name_eq, hm.satisfied_eq, hm.resolve_eq haliases]
      simp only [ih]

theorem resolveRounds_redeclares (haliases : aliases.RefersPlainly) (h : List.Forall₂ Redeclares metrics metrics')
    (rounds : Nat) (resolved : List ResolvedMetric) :
    resolveRounds aliases metrics' rounds resolved = resolveRounds aliases metrics rounds resolved := by
  induction rounds generalizing resolved with
  | zero => rfl
  | succ rounds ih =>
      rw [resolveRounds, resolveRounds, resolveRound_redeclares haliases h]
      simp only [ih]

/-- Whatever is resolved comes of a declared metric, and of a flat one it is the formula with every placeholder for
a dependency replaced at once. Another order of its dependencies, or some of them declared again, changes nothing. -/
theorem resolveAll_replacesAtOnce (aliases : Aliases) (metrics : List CalculatedMetric)
    (haliases : aliases.RefersPlainly) :
    (∀ e ∈ resolveAll aliases metrics, (∃ m ∈ metrics, e = m.resolve aliases) ∧
      ∀ m : CalculatedMetric, e = m.resolve aliases → m.Flat → ∀ text,
        ReplacesAtOnce aliases m.dependencies m.formula.toList text ↔ text = e.expr.toList) ∧
    ∀ metrics', List.Forall₂ Redeclares metrics metrics' →
      resolveAll aliases metrics' = resolveAll aliases metrics := by
  refine ⟨fun e he => ⟨?_, ?_⟩, fun metrics' h => ?_⟩
  · obtain ⟨_, _, _, m, hm, hresolve, _⟩ := founded_resolveAll.of_mem he
    exact ⟨m, hm, hresolve⟩
  · rintro m rfl hflat text
    exact hflat.replacesAtOnce_iff haliases
  · rw [resolveAll, resolveAll, h.length_eq]
    exact resolveRounds_redeclares haliases h _ _

/-- Names that start or end alike, one of them that of another metric, and braces that belong to none of them. -/
def growth : CalculatedMetric :=
  ⟨"growth", ["net", "ly", "net_ly", "rate"],
    "\x7bnet\x7d - \x7bnet_ly\x7d \x7d \x7brate\x7d\x7bly\x7d \x7bne\x7d \x7bnet"⟩

/-- The metric that the growth rests on. -/
def growthRate : CalculatedMetric := ⟨"rate", ["ly"], "\x7bly\x7d"⟩

def growthAliases : Aliases :=
  [("ly", .output "last"), ("net", .column "now" "net"), ("net_ly", .column "then" "net")]

/-- The growth is resolved behind the rate, and its expression is the same with the dependencies in another order and
two of them declared again. -/
theorem resolveAll_replacesAtOnce_growth :
    let text := "now.net - then.net \x7d ratelast \x7bne\x7d \x7bnet"
    let again := ["rate", "net_ly", "net", "rate", "ly", "net"]
    growthAliases.RefersPlainly ∧ growth.Flat ∧
    resolveAll growthAliases [growth, growthRate] = [⟨"rate", "last"⟩, ⟨"growth", text⟩] ∧
    ReplacesAtOnce growthAliases growth.dependencies growth.formula.toList text.toList ∧
    resolveAll growthAliases [{ growth with dependencies := again }, growthRate] =
      [⟨"rate", "last"⟩, ⟨"growth", text⟩] := by
  intro text again
  have haliases : growthAliases.RefersPlainly := by
    have hall : ∀ entry ∈ growthAliases, Plain entry.2.text := by decide +kernel
    exact fun name reference hget => hall (name, reference) (Sorted.mem_of_get? hget)
  have hflat : growth.Flat := ⟨by decide +kernel, by decide +kernel⟩
  have hresolved : resolveAll growthAliases [growth, growthRate] = [⟨"rate", "last"⟩, ⟨"growth", text⟩] := by
    decide +kernel
  have hredeclared : Redeclares growth { growth with dependencies := again } :=
    ⟨again, rfl, .inr ⟨hflat, by simp only [growth, again]; grind⟩⟩
  obtain ⟨hexpr, hagain⟩ := resolveAll_replacesAtOnce growthAliases [growth, growthRate] haliases
  obtain ⟨⟨m, hm, hresolve⟩, hreplaces⟩ := hexpr ⟨"growth", text⟩ (by simp [hresolved])
  have hgrowth : m = growth := by
    rw [List.mem_pair] at hm
    refine hm.resolve_right ?_
    rintro rfl
    exact absurd (congrArg ResolvedMetric.name hresolve) (by decide)
  rw [← hresolved]
  exact ⟨haliases, hflat, rfl, (hreplaces growth (hgrowth ▸ hresolve) hflat text.toList).mpr rfl,
    hagain _ (.cons hredeclared (.cons ⟨_, rfl, .inl rfl⟩ .nil))⟩

end CalculatedMetric
end BalanceSheet
