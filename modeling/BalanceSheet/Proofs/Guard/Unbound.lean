import BalanceSheet.Guard
import BalanceSheet.Proofs.Params.Placeholder
import BalanceSheet.Proofs.Text.Braces

/-!
What the guard takes for a placeholder. The check reads the text from left to right and sees the placeholders
whose opening brace it meets while nothing is open; it passes if all of these are bound, and names one that is
not otherwise. So a brace that is opened before a placeholder hides it, and a brace within its type does not keep
it from being seen; in a text without such braces the check finds every placeholder, and nothing else.
-/

namespace BalanceSheet.Guard

open Text

/-- A placeholder of that name stands somewhere in the text: a name and a type without braces, in braces. -/
def Mentions (sql name : String) : Prop :=
  Params.isName name.toList = true ∧
    ∃ type, Unbraced type ∧ Encloses sql.toList (name.toList ++ ':' :: type)

/-- A reader opens a part that starts like a placeholder of that name. -/
def Reads (sql name : String) : Prop :=
  Params.isName name.toList = true ∧ ∃ type, OpensPart sql.toList (name.toList ++ ':' :: type)

/-- All placeholders in the text are bound. -/
def Binds (params : Params) (names : String → Prop) : Prop :=
  ∀ name, names name → (params.get? name).isSome = true

variable {sql : String} {params : Params}

theorem placeholderName?_eq_some_iff {inside : List Char} {name : String} :
    placeholderName? inside = some name ↔
      Params.isName name.toList = true ∧ ∃ type, inside = name.toList ++ ':' :: type := by
  constructor
  · intro h
    obtain ⟨⟨before, after⟩, hcut, hname⟩ := Option.bind_eq_some_iff.mp h
    obtain ⟨rfl, -⟩ := eq_of_cut hcut
    obtain ⟨hvalid, rfl⟩ : Params.isName before = true ∧ String.ofList before = name := by simpa using hname
    rw [String.toList_ofList]
    exact ⟨hvalid, after, rfl⟩
  · rintro ⟨hname, type, rfl⟩
    have hcolon : ':' ∉ name.toList := fun hmem => absurd (Params.isPart_of_isName hname _ hmem) (by decide)
    rw [placeholderName?, cut_append hcolon]
    simp [hname]

theorem mem_placeholderNames_iff {name : String} : name ∈ placeholderNames sql ↔ Reads sql name := by
  simp only [placeholderNames, List.mem_filterMap, mem_braced_iff, placeholderName?_eq_some_iff, Reads]
  constructor
  · rintro ⟨_, hopens, hname, type, rfl⟩
    exact ⟨hname, type, hopens⟩
  · rintro ⟨hname, type, hopens⟩
    exact ⟨_, hopens, hname, type, rfl⟩

theorem checkParams_eq_ok_iff : checkParams sql params = .ok () ↔ Binds params (Reads sql) := by
  have hbound : ((placeholderNames sql).find? fun name => (params.get? name).isNone) = none ↔
      Binds params (Reads sql) := by
    rw [List.find?_eq_none]
    refine forall_congr' fun name => ?_
    rw [mem_placeholderNames_iff, Bool.not_eq_true, Option.isNone_eq_false_iff]
  rw [← hbound, checkParams]
  split
  case h_1 name hfound => simp [hfound]
  case h_2 hnone => simp [hnone]

/-- The check fails with the name of a placeholder that it reads and that is not bound. -/
theorem unbound_of_checkParams {fault : Params.Fault} (h : checkParams sql params = .error fault) :
    ∃ name, fault = .unbound name ∧ Reads sql name ∧ params.get? name = none := by
  rw [checkParams] at h
  split at h
  case h_1 name hfound =>
      obtain rfl := Except.error.inj h
      have hread := mem_placeholderNames_iff.mp (List.mem_of_find?_eq_some hfound)
      exact ⟨name, rfl, hread, by simpa using @List.find?_some _ (fun name => (params.get? name).isNone) _ _ hfound⟩
  case h_2 => cases h

/-! ### Texts whose placeholders are all found -/

theorem unbraced_inside_iff {name : String} (h : Params.isName name.toList = true) {type : List Char} :
    Unbraced (name.toList ++ ':' :: type) ↔ Unbraced type := by
  have hpart := unbraced_of_isPart (Params.isPart_of_isName h)
  simp [Unbraced, hpart.1, hpart.2]

/-- In an unnested text, the placeholders read are those that stand there. -/
theorem reads_iff_mentions (h : Unnested sql.toList) (name : String) : Reads sql name ↔ Mentions sql name := by
  refine and_congr_right fun hname => exists_congr fun type => ?_
  rw [h.opensPart_iff, unbraced_inside_iff hname]
  exact and_comm

/-- Parameters of these names. -/
def ofNames (names : List String) : Params := ⟨names.map fun name => ⟨name, .string, ""⟩⟩

theorem isSome_get?_ofNames {names : List String} {name : String} :
    ((ofNames names).get? name).isSome = true ↔ name ∈ names := by
  simp [ofNames, Params.get?, List.find?_isSome]

/-- Whatever stands in a text. -/
def infixes (cs : List Char) : List (List Char) := cs.tails.flatMap List.inits

theorem mem_infixes_iff {part cs : List Char} : part ∈ infixes cs ↔ part <:+: cs := by
  simp only [infixes, List.mem_flatMap, List.mem_tails, List.mem_inits, List.infix_iff_prefix_suffix]
  exact exists_congr fun _ => and_comm

theorem Mentions.mem_infixes {name : String} (h : Mentions sql name) : name.toList ∈ infixes sql.toList := by
  obtain ⟨-, type, -, hencloses⟩ := h
  exact mem_infixes_iff.mpr (.trans ⟨['{'], ':' :: (type ++ ['}']), by simp⟩ hencloses)

/-- That the check passes tells that all placeholders are bound exactly where it reads them all. -/
theorem binds_of_passes_iff : (∀ params, checkParams sql params = .ok () → Binds params (Mentions sql)) ↔
    ∀ name, Mentions sql name → Reads sql name := by
  simp only [checkParams_eq_ok_iff]
  constructor
  · intro h name hmentions
    have hall : Binds (ofNames (placeholderNames sql)) (Reads sql) := fun other hread =>
      isSome_get?_ofNames.mpr (mem_placeholderNames_iff.mpr hread)
    exact mem_placeholderNames_iff.mp (isSome_get?_ofNames.mp (h _ hall name hmentions))
  · intro h params hbinds name hmentions
    exact hbinds name (h name hmentions)

/-- That all placeholders are bound lets the check pass exactly where it reads nothing else. -/
theorem passes_of_binds_iff : (∀ params, Binds params (Mentions sql) → checkParams sql params = .ok ()) ↔
    ∀ name, Reads sql name → Mentions sql name := by
  simp only [checkParams_eq_ok_iff]
  constructor
  · intro h name hread
    by_contra hmentions
    -- everything that the text could mention is bound, and this name is not
    have hall : Binds (ofNames (((infixes sql.toList).map String.ofList).filter (· ≠ name))) (Mentions sql) := by
      intro other hother
      rw [isSome_get?_ofNames, List.mem_filter]
      refine ⟨List.mem_map.mpr ⟨other.toList, hother.mem_infixes, String.ofList_toList⟩, decide_eq_true ?_⟩
      rintro rfl
      exact hmentions hother
    simpa using isSome_get?_ofNames.mp (h _ hall name hread)
  · intro h params hbinds name hread
    exact hbinds name (h name hread)

/-- The check passes exactly if the placeholders that it reads are bound, and fails with one of them. These are
all that stand in the text exactly where no brace hides one from it, and in an unnested text they are the same. -/
theorem passes_iff_binds_read (sql : String) :
    (∀ params, checkParams sql params = .ok () ↔ Binds params (Reads sql)) ∧
    (∀ params fault, checkParams sql params = .error fault →
      ∃ name, fault = .unbound name ∧ Reads sql name ∧ params.get? name = none) ∧
    ((∀ params, checkParams sql params = .ok () → Binds params (Mentions sql)) ↔
      ∀ name, Mentions sql name → Reads sql name) ∧
    ((∀ params, Binds params (Mentions sql) → checkParams sql params = .ok ()) ↔
      ∀ name, Reads sql name → Mentions sql name) ∧
    (Unnested sql.toList → ∀ params, checkParams sql params = .ok () ↔ Binds params (Mentions sql)) := by
  refine ⟨fun _ => checkParams_eq_ok_iff, fun _ _ => unbound_of_checkParams, binds_of_passes_iff,
    passes_of_binds_iff, fun h params => ?_⟩
  rw [checkParams_eq_ok_iff]
  exact forall_congr' fun name => imp_congr_left (reads_iff_mentions h name)

/-- Two placeholders, of which one is bound, and then both. -/
theorem passes_iff_binds_read_dated :
    let sql := "SELECT sum(amount) FROM sales WHERE brand = \x7bp0:String\x7d AND date >= \x7bp1:Date\x7d"
    let one := (Params.empty.bind .string "acme").2
    let both := (one.bind .date "2024-01-01").2
    Unnested sql.toList ∧ Binds both (Mentions sql) ∧ ¬ Binds one (Mentions sql) := by
  intro sql one both
  have hunnested : Unnested sql.toList := by decide +kernel
  obtain ⟨-, -, -, -, hpasses⟩ := passes_iff_binds_read sql
  refine ⟨hunnested, (hpasses hunnested both).mp (by decide +kernel), ?_⟩
  rw [← hpasses hunnested one]
  decide +kernel

/-- A literal brace hides a placeholder that is not bound, and a literal that only starts like a placeholder is
taken for one. -/
theorem passes_unbound_hidden :
    let hidden := "SELECT '\x7b' AS mark FROM sales WHERE brand = \x7bp0:String\x7d"
    let apparent := "SELECT '\x7bp0:\x7b\x7d'"
    (checkParams hidden .empty = .ok () ∧ ¬ Binds .empty (Mentions hidden)) ∧
    checkParams apparent .empty = .error (.unbound "p0") ∧ Binds .empty (Mentions apparent) := by
  intro hidden apparent
  refine ⟨⟨by decide +kernel, fun hbinds => ?_⟩, by decide +kernel, ?_⟩
  · have hmentions : Mentions hidden "p0" := ⟨by decide, "String".toList, by decide, by decide +kernel⟩
    exact absurd (hbinds "p0" hmentions) (by decide)
  · rintro name ⟨hname, type, htype, hencloses⟩
    have hnone : ∀ inside ∈ infixes apparent.toList, Encloses apparent.toList inside → Unbraced inside →
        ':' ∉ inside := by decide +kernel
    have hstands : name.toList ++ ':' :: type ∈ infixes apparent.toList :=
      mem_infixes_iff.mpr (.trans ⟨['{'], ['}'], by simp⟩ hencloses)
    exact absurd (by simp) (hnone _ hstands hencloses ((unbraced_inside_iff hname).mpr htype))

end BalanceSheet.Guard
