import BalanceSheet.Proofs.Api.Conditions
import BalanceSheet.Proofs.Query.Plans
import BalanceSheet.Proofs.Response.Conformance

/-!
Pages of groups. A query names the page, its statement names the rows to skip, and the response names the page
again, which it works out from the rows that were skipped. The two pages are one as long as the rows before it can
be counted in 32 bits. There are no more rows to skip than that, so past this point the response names the last
page that can be reached instead of the one that was asked for.
-/

namespace BalanceSheet

/-! ### Rows of a page -/

/-- The row, counted from zero among all rows, is on the page. -/
def Page.Shows (p : Page) (row : Nat) : Prop := p.offset ≤ row ∧ row < p.offset + p.limit

/-- Pages that start where the ones before them end share no row and leave none out. -/
theorem Page.shows_iff {size number row : Nat} (hsize : 0 < size) (hnumber : 0 < number) :
    (⟨size, (number - 1) * size⟩ : Page).Shows row ↔ row / size + 1 = number := by
  obtain ⟨before, rfl⟩ := Nat.exists_eq_succ_of_ne_zero hnumber.ne'
  have hbelow : before * size ≤ row ↔ before ≤ row / size := (Nat.le_div_iff_mul_le hsize).symm
  have habove : row < (before + 1) * size ↔ row / size < before + 1 := (Nat.div_lt_iff_lt_mul hsize).symm
  simp only [Shows, Nat.succ_eq_add_one, Nat.add_sub_cancel]
  rw [← Nat.succ_mul, hbelow, Nat.succ_eq_add_one, habove]
  omega

/-- The page that follows from the skipped rows is the one before which they stand, unless there are more of them
than can be skipped. -/
theorem Page.number_of_skipped {size number most : Nat} (hsize : 0 < size) (hnumber : 0 < number) :
    min ((number - 1) * size) most / size + 1 = number ↔ (number - 1) * size ≤ most := by
  obtain ⟨before, rfl⟩ := Nat.exists_eq_succ_of_ne_zero hnumber.ne'
  simp only [Nat.succ_eq_add_one, Nat.add_sub_cancel]
  constructor
  · intro h
    by_contra hmore
    have hshort : most / size < before := (Nat.div_lt_iff_lt_mul hsize).mpr (by omega)
    rw [Nat.min_eq_right (by omega)] at h
    omega
  · intro hfits
    rw [Nat.min_eq_left hfits, Nat.mul_div_cancel _ hsize]

/-- No page is called by a greater number than the one before which the skipped rows stand. -/
theorem Page.number_of_skipped_le {size number most : Nat} (hsize : 0 < size) (hnumber : 0 < number) :
    min ((number - 1) * size) most / size + 1 ≤ number := by
  have hrows : min ((number - 1) * size) most / size ≤ (number - 1) * size / size :=
    Nat.div_le_div_right (Nat.min_le_left _ _)
  rw [Nat.mul_div_cancel _ hsize] at hrows
  omega

/-! ### Statements and responses -/

theorem Select.exists_text_of_page {s : Select} {limit offset : Nat} (hlimit : s.limit = some limit)
    (hoffset : s.offset = some offset) :
    ∃ front, s.text = front ++ " LIMIT " ++ toString limit ++ " OFFSET " ++ toString offset := by
  unfold text
  simp only [hlimit, hoffset, ← String.append_assoc]
  exact ⟨_, rfl⟩

/-- A grouped statement ends with its page. -/
theorem Grouped.exists_sql_of_page {r : Registry} {request : GroupedRequest} {today : Date} {s : Statement}
    {limit : Nat} (h : statement r request today = .ok (some s)) (hlimit : request.page.effectiveLimit = .ok limit) :
    ∃ front, s.sql = front ++ " LIMIT " ++ toString limit ++ " OFFSET " ++ toString request.page.offset := by
  obtain ⟨p, d, groups, w, -, hanswers, hrenders⟩ := statement_some_ok h
  cases hlimit.symm.trans hanswers.limit
  rw [hrenders.sql]
  exact Select.exists_text_of_page rfl (congrArg some hanswers.offset)

theorem Page.effectiveLimit_ok {p : Page} {limit : Nat} (h : p.effectiveLimit = .ok limit) :
    0 < limit ∧ limit = min p.limit maxLimit := by
  obtain ⟨hlimit, h⟩ := Except.refuse_eq_ok_iff.mp h
  cases h
  have hmost : 0 < maxLimit := by decide
  omega

namespace Engine

variable {r : Registry} {today : Date} {request : GroupedRequest} {reply : StoreReply} {result : GroupedResult}

/-- The response to a grouped request is for the page of the request, and so is the statement, if there is one. -/
theorem grouped_page (h : (grouped r today request).result reply = .ok result) :
    ∃ limit, request.page.effectiveLimit = .ok limit ∧ result.page.limit = limit ∧
      result.page.page = (request.page.offset / limit + 1) % (Decimal.maxUInt32 + 1) ∧
      ∀ s, (grouped r today request).question? = some (.rows s) → Grouped.statement r request today = .ok (some s) := by
  rw [grouped] at h ⊢
  split at h
  case h_1 => cases h
  case h_2 limit hlimit =>
    obtain ⟨hpos, -⟩ := Page.effectiveLimit_ok hlimit
    have hmax : max limit 1 = limit := by omega
    have hnumber (total count : Nat) :
        (PageMeta.ofPage request.groupBy total count limit request.page.offset).page =
          (request.page.offset / limit + 1) % (Decimal.maxUInt32 + 1) := by
      simp only [PageMeta.ofPage, hmax]
    refine ⟨limit, hlimit, ?_⟩
    split at h
    case h_1 => cases h
    case h_2 =>
      cases h
      refine ⟨hmax, hnumber _ _, ?_⟩
      intro s hs
      cases hs
    case h_3 s hs =>
      cases reply with
      | error fault => cases h
      | ok rows =>
          cases h
          refine ⟨hmax, hnumber _ _, ?_⟩
          rintro _ ⟨⟩
          exact hs

end Engine

/-! ### Queries -/

theorem Decimal.le_of_unsigned? {most n : Nat} {s : String} (h : unsigned? most s = some n) : n ≤ most := by
  obtain ⟨digits, -, h⟩ := Option.bind_eq_some_iff.mp h
  split at h
  case isTrue hmost =>
    cases h
    exact hmost
  case isFalse => cases h

namespace Api

/-- A number in a query has 32 bits. -/
theorem RawQuery.le_of_number? {raw : RawQuery} {key : String} {n : Nat} (h : raw.number? key = .ok (some n)) :
    n ≤ Decimal.maxUInt32 := by
  unfold number? at h
  split at h
  case h_1 => cases h
  case h_2 =>
    split at h
    case h_1 hn =>
      cases h
      exact Decimal.le_of_unsigned? hn
    case h_2 => cases h

theorem Errand.question?_ofRequest {request α : Type} {read : Except Fault request} {inquire : request → Inquiry α}
    {req : request} (h : read = .ok req) : (ofRequest read inquire).question? = (inquire req).question? := by
  rw [h]
  exact Exchange.question?_map _ _

namespace BalanceQuery

theorem rowsToSkip_ok {q : BalanceQuery} {limit offset number : Nat} (hpage : q.page = some number)
    (hoffset : q.offset = none) (h : q.rowsToSkip limit = .ok offset) :
    0 < number ∧ offset = min ((number - 1) * min limit Page.maxLimit) Decimal.maxUInt32 := by
  rw [rowsToSkip, hpage, hoffset] at h
  cases number with
  | zero => cases h
  | succ before =>
      cases h
      exact ⟨before.succ_pos, rfl⟩

theorem page_of_groupedRequest {q : BalanceQuery} {r : Registry} {request : GroupedRequest}
    (h : q.groupedRequest r = .ok request) :
    request.page.limit = q.limit.getD Page.ofGroups.limit ∧
      q.rowsToSkip request.page.limit = .ok request.page.offset := by
  obtain ⟨groupBy, offset, filters, direction, -, hoffset, -, -, rfl⟩ := groupedRequest_ok h
  exact ⟨rfl, hoffset⟩

/-- What is answered to a query for a page, where `size` rows stand on a page. As many rows are skipped as stand
on the pages before it, up to the greatest number of 32 bits, and statement and response say so; the response
names the page that was asked for exactly if that number is not exceeded, and then the rows of the page are those
that no other page has. -/
theorem page_served {raw : RawQuery} {q : BalanceQuery} {r : Registry} {today : Date} {reply : StoreReply}
    {result : GroupedResult} {number : Nat} {limit : Option Nat} (hq : ofRaw raw = .ok q)
    (hpage : raw.number? "page" = .ok (some number)) (hoffset : raw.value? "offset" = none)
    (hlimit : raw.number? "limit" = .ok limit) (hresult : (q.grouped r today).result reply = .ok result) :
    ∃ size skipped, size = min (limit.getD Page.ofGroups.limit) Page.maxLimit ∧
      skipped = min ((number - 1) * size) Decimal.maxUInt32 ∧
      result.page.limit = size ∧ result.page.page = skipped / size + 1 ∧
      (∀ s, (q.grouped r today).question? = some (.rows s) →
        ∃ front, s.sql = front ++ " LIMIT " ++ toString size ++ " OFFSET " ++ toString skipped) ∧
      (result.page.page = number ↔ (number - 1) * size ≤ Decimal.maxUInt32) ∧
      ((number - 1) * size ≤ Decimal.maxUInt32 → skipped = (number - 1) * size ∧
        ∀ row, (⟨size, skipped⟩ : Page).Shows row ↔ row / size + 1 = number) := by
  obtain ⟨page', limit', offset', hpage', hlimit', hoffset', hq⟩ := ofRaw_ok hq
  cases hpage.symm.trans hpage'
  cases hlimit.symm.trans hlimit'
  have hnone : offset' = none := by
    rw [RawQuery.number?, hoffset] at hoffset'
    cases hoffset'
    rfl
  obtain ⟨request, hrequest, hresult⟩ := Errand.ofRequest_result_ok hresult
  obtain ⟨size, heffective, hsize, hnumber, hstatement⟩ := Engine.grouped_page hresult
  obtain ⟨hrows, hskipped⟩ := page_of_groupedRequest hrequest
  obtain ⟨hpos, hleast⟩ := Page.effectiveLimit_ok heffective
  have hqlimit : q.limit = limit := by rw [hq]
  rw [hqlimit] at hrows
  obtain ⟨hfirst, hskip⟩ := rowsToSkip_ok (by rw [hq]) (by rw [hq, hnone]) hskipped
  rw [← hleast] at hskip
  rw [hrows] at hleast
  -- the page is no greater than the one that was asked for, which has 32 bits, so it is not cut off
  have hshort : request.page.offset / size + 1 ≤ number := hskip ▸ Page.number_of_skipped_le hpos hfirst
  have hnumber : result.page.page = request.page.offset / size + 1 :=
    hnumber.trans (Nat.mod_eq_of_lt (Nat.lt_succ_of_le (hshort.trans (RawQuery.le_of_number? hpage))))
  refine ⟨size, request.page.offset, hleast, hskip, hsize, hnumber, ?_, ?_, ?_⟩
  · intro s hs
    rw [grouped, Errand.question?_ofRequest hrequest] at hs
    exact Grouped.exists_sql_of_page (hstatement s hs) heffective
  · rw [hnumber, hskip]
    exact Page.number_of_skipped hpos hfirst
  · intro hfits
    rw [Nat.min_eq_left hfits] at hskip
    rw [hskip]
    exact ⟨rfl, fun row => Page.shows_iff hpos hfirst⟩

/-- The third page of brands, with as many on a page as a query gets that does not say. -/
theorem page_served_third :
    let raw : RawQuery := [("group_by", "brand"), ("limit", " "), ("page", "3")]
    ∃ q result, ofRaw raw = .ok q ∧ raw.number? "page" = .ok (some 3) ∧ raw.value? "offset" = none ∧
      raw.number? "limit" = .ok none ∧
      (q.grouped .builtin Registry.Builtin.spring).result (.ok Rows.empty) = .ok result ∧
      result.page.page = 3 ∧ result.page.limit = 50 ∧
      ∀ row, (⟨50, 100⟩ : Page).Shows row ↔ row / 50 + 1 = 3 := by
  intro raw
  obtain ⟨q, hq, hgrouped⟩ := Except.exists_of_map (e := ofRaw raw)
    (f := fun q => ((q.grouped .builtin Registry.Builtin.spring).result (.ok Rows.empty)).isOk) (b := true)
    (by decide +kernel)
  obtain ⟨result, hresult⟩ := Except.exists_of_isOk hgrouped
  have hpage : raw.number? "page" = .ok (some 3) := by rfl
  have hoffset : raw.value? "offset" = none := by decide +kernel
  have hlimit : raw.number? "limit" = .ok none := by rfl
  obtain ⟨size, skipped, hsize, hskipped, hresultLimit, -, -, hiff, hrows⟩ :=
    page_served hq hpage hoffset hlimit hresult
  have hfifty : size = 50 := hsize
  have hhundred : skipped = 100 := by rw [hskipped, hfifty]; rfl
  have hfits : (3 - 1) * size ≤ Decimal.maxUInt32 := by rw [hfifty]; decide
  rw [← hfifty, ← hhundred]
  exact ⟨q, result, hq, hpage, hoffset, hlimit, hresult, hiff.mpr hfits, hresultLimit, (hrows hfits).2⟩

/-- A page so far on that the rows before it cannot be counted in 32 bits is called by the number of another, and
is not the rows that it should be. -/
theorem page_unreachable :
    let raw : RawQuery := [("group_by", "brand"), ("limit", "10000"), ("page", "429498")]
    ∃ q request result, ofRaw raw = .ok q ∧ raw.number? "page" = .ok (some 429498) ∧ raw.value? "offset" = none ∧
      q.groupedRequest .builtin = .ok request ∧
      (q.grouped .builtin Registry.Builtin.spring).result (.ok Rows.empty) = .ok result ∧
      result.page.limit = 10000 ∧ request.page.offset = 4294967295 ∧ 4294967295 < (429498 - 1) * 10000 ∧
      result.page.page = 429497 := by
  intro raw
  obtain ⟨q, hq, hgrouped⟩ := Except.exists_of_map (e := ofRaw raw)
    (f := fun q => ((q.groupedRequest .builtin).toOption.map (·.page.offset),
      ((q.grouped .builtin Registry.Builtin.spring).result (.ok Rows.empty)).toOption.map
        fun result => (result.page.limit, result.page.page)))
    (b := (some 4294967295, some (10000, 429497))) (by decide +kernel)
  obtain ⟨hrequest, hresult⟩ := Prod.mk.inj hgrouped
  obtain ⟨request, hrequest, hoffset⟩ := Except.exists_of_map hrequest
  obtain ⟨result, hresult, hpage⟩ := Except.exists_of_map hresult
  obtain ⟨hlimit, hpage⟩ := Prod.mk.inj hpage
  exact ⟨q, request, result, hq, by rfl, by decide +kernel, hrequest, hresult, hlimit, hoffset,
    by decide, hpage⟩

end BalanceQuery
end Api
end BalanceSheet
