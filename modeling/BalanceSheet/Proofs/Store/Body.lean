import BalanceSheet.Proofs.Json.Grammar
import BalanceSheet.Proofs.Json.Reading
import BalanceSheet.Proofs.Lists
import BalanceSheet.Store.Client

/-!
The body of a reply, with a record on each line. Records are read back as they were written, however the lines end
and whatever blank lines stand between them: no line is cut, since nothing in the text of a value is a control
character. A body with a line that is neither blank nor the text of an object is refused.
-/

namespace BalanceSheet.StoreClient

inductive LineEnd : List Char → Prop where
  | feed : LineEnd ['\n']
  | returnFeed : LineEnd ['\r', '\n']

/-- A line writes one record, with the members of its objects in any order, or is blank and writes none. -/
inductive WritesLine : List Record → List Char → Prop where
  | blank {line : List Char} (hblank : line.all Text.isBlank = true) (hline : '\n' ∉ line) : WritesLine [] line
  | record {written : Json} {record : Record} (hrecord : Json.Storable 127 (.members record))
      (hwritten : Json.Rearranges written (.members record)) : WritesLine [record] (Json.chars written)

/-- A body writes the records of its lines; the last line need not be ended. -/
inductive WritesBody : List Record → List Char → Prop where
  | last {records : List Record} {line : List Char} (h : WritesLine records line) : WritesBody records line
  | more {records others : List Record} {line ending body : List Char} (h : WritesLine records line)
      (hending : LineEnd ending) (hbody : WritesBody others body) :
      WritesBody (records ++ others) (line ++ ending ++ body)

/-- A line of a body is its last one, or has an end, or is a line of what follows an end. -/
inductive IsLine (line : List Char) : List Char → Prop where
  | last (h : '\n' ∉ line) : IsLine line line
  | ended {ending rest : List Char} (h : '\n' ∉ line) (hending : LineEnd ending) : IsLine line (line ++ ending ++ rest)
  | later {before rest : List Char} (h : IsLine line rest) : IsLine line (before ++ '\n' :: rest)

/-! ### Lines -/

theorem splitOn_eq_singleton {line : List Char} (h : '\n' ∉ line) : line.splitOn '\n' = [line] :=
  List.splitOnP_eq_singleton fun _ hc => beq_eq_false_iff_ne.mpr fun heq => h (heq ▸ hc)

theorem splitOn_append (line rest : List Char) :
    (line ++ '\n' :: rest).splitOn '\n' = line.splitOn '\n' ++ rest.splitOn '\n' :=
  List.splitOnP_append_cons line rest (by simp)

/-- A line is cut off at the line feed, which leaves a carriage return at most. -/
theorem LineEnd.splitOn_append {line ending : List Char} (h : LineEnd ending) (hline : '\n' ∉ line) (rest : List Char) :
    ∃ trail, Json.Blanks trail ∧ (line ++ ending ++ rest).splitOn '\n' = (line ++ trail) :: rest.splitOn '\n' := by
  cases h with
  | feed =>
      refine ⟨[], Json.blanks_nil, ?_⟩
      rw [List.append_assoc, List.singleton_append, StoreClient.splitOn_append, splitOn_eq_singleton hline,
        List.append_nil]
      rfl
  | returnFeed =>
      have hreturn : '\n' ∉ line ++ ['\r'] := by
        rw [List.mem_append, not_or]
        exact ⟨hline, by decide⟩
      refine ⟨['\r'], by simp [Json.Blanks, Json.isSpace], ?_⟩
      rw [← List.singleton_append, ← List.append_assoc, List.append_assoc, List.singleton_append,
        StoreClient.splitOn_append, splitOn_eq_singleton hreturn]
      rfl

theorem isBlank_of_isSpace {c : Char} (h : Json.isSpace c = true) : Text.isBlank c = true := by
  simp only [Json.isSpace, Bool.or_eq_true, decide_eq_true_eq] at h
  rcases h with ((rfl | rfl) | rfl) | rfl
  all_goals decide

/-- The records of lines, each of which stands by itself. -/
def rows? (lines : List (List Char)) : Option (List Record) :=
  (lines.filter fun line => !line.all Text.isBlank).mapM record?

theorem rows?_append {lines others : List (List Char)} {records more : List Record} (h : rows? lines = some records)
    (hothers : rows? others = some more) : rows? (lines ++ others) = some (records ++ more) := by
  unfold rows? at h hothers ⊢
  rw [List.filter_append, List.mapM_append, h, hothers]
  rfl

/-! ### Records are read back -/

theorem WritesLine.no_feed {records : List Record} {line : List Char} (h : WritesLine records line) :
    '\n' ∉ line := by
  cases h with
  | blank _ hline => exact hline
  | record hrecord hwritten =>
      intro hfeed
      have hprintable : 32 ≤ '\n'.toNat := (hrecord.reads hwritten).printable '\n' hfeed
      exact absurd hprintable (by decide)

theorem not_all_isBlank_chars {written : Json} {record : Record}
    (hwritten : Json.Rearranges written (.members record)) (trail : List Char) :
    (Json.chars written ++ trail).all Text.isBlank = false := by
  cases hwritten with
  | members _ _ =>
      rw [Json.chars_members]
      rfl

theorem WritesLine.rows?_eq {records : List Record} {line trail : List Char} (h : WritesLine records line)
    (htrail : Json.Blanks trail) : rows? [line ++ trail] = some records := by
  cases h with
  | blank hblank _ =>
      have hall : (line ++ trail).all Text.isBlank = true := by
        rw [List.all_append, hblank, Bool.true_and]
        exact List.all_eq_true.mpr fun c hc => isBlank_of_isSpace (htrail c hc)
      rw [rows?, List.filter_singleton, hall]
      rfl
  | @record written record hrecord hwritten =>
      have hread : record? (Json.chars written ++ trail) = some record := by
        rw [record?, hrecord.ofChars?_append hwritten htrail]
      rw [rows?, List.filter_singleton, not_all_isBlank_chars hwritten, Bool.not_false, cond_true, List.mapM_cons,
        hread]
      rfl

/-- What is written line by line is read line by line. -/
theorem WritesBody.rows?_eq {records : List Record} {body : List Char} (h : WritesBody records body) :
    rows? (body.splitOn '\n') = some records := by
  induction h with
  | @last records line h =>
      have hline := h.rows?_eq Json.blanks_nil
      rwa [List.append_nil, ← splitOn_eq_singleton h.no_feed] at hline
  | @more records others line ending body h hending _ ih =>
      obtain ⟨trail, htrail, hsplit⟩ := hending.splitOn_append h.no_feed body
      rw [hsplit, ← List.singleton_append]
      exact rows?_append (h.rows?_eq htrail) ih

/-! ### Other lines are refused -/

theorem IsLine.mem_splitOn {line body : List Char} (h : IsLine line body) :
    ∃ trail, Json.Blanks trail ∧ line ++ trail ∈ body.splitOn '\n' := by
  induction h with
  | last h => exact ⟨[], Json.blanks_nil, by simp [splitOn_eq_singleton h]⟩
  | @ended ending rest h hending =>
      obtain ⟨trail, htrail, hsplit⟩ := hending.splitOn_append h rest
      exact ⟨trail, htrail, hsplit ▸ List.mem_cons_self⟩
  | @later before rest _ ih =>
      obtain ⟨trail, htrail, hmem⟩ := ih
      refine ⟨trail, htrail, ?_⟩
      rw [splitOn_append]
      exact List.mem_append_right _ hmem

/-- What is read as a record is the text of an object. -/
theorem record?_eq_none {line : List Char} (h : ¬ Json.IsObjectText line) : record? line = none := by
  unfold record?
  split
  case h_1 hread => exact absurd (Json.isObjectText_of_ofChars? hread) h
  case h_2 => rfl

/-- A line that is neither blank nor an object leaves no records. -/
theorem rows?_eq_none {lines : List (List Char)} {line : List Char} (hmem : line ∈ lines)
    (hblank : line.all Text.isBlank = false) (hobject : ¬ Json.IsObjectText line) : rows? lines = none := by
  refine mapM_eq_none_of_mem (List.mem_filter.mpr ⟨hmem, ?_⟩) (record?_eq_none hobject)
  rw [hblank]
  rfl

/-! ### Bodies -/

/-- The records that a body writes are read from it, in their order; and a body with a line that is neither blank nor
the text of an object has none. -/
theorem records_of_body (body : String) :
    (∀ records, WritesBody records body.toList → recordsOfLines body = .ok records) ∧
      ∀ line, IsLine line body.toList → line.all Text.isBlank = false → ¬ Json.IsObjectText line →
        ∃ detail, recordsOfLines body = .error ⟨.serialization, detail⟩ := by
  constructor
  · intro records h
    have hrows := h.rows?_eq
    unfold rows? at hrows
    rw [recordsOfLines, hrows]
  · intro line hline hblank hobject
    obtain ⟨trail, htrail, hmem⟩ := hline.mem_splitOn
    have htrailed : (line ++ trail).all Text.isBlank = false := by rw [List.all_append, hblank, Bool.false_and]
    have hrows := rows?_eq_none hmem htrailed fun h => hobject (h.of_append htrail)
    unfold rows? at hrows
    refine ⟨"failed to parse JSON row", ?_⟩
    rw [recordsOfLines, hrows]

/-- The members of a record stand in their order again, the blank line between the records is passed over, and the
list after a record is refused. -/
theorem records_of_body_unordered :
    recordsOfLines "\x7b\"b\":[-2],\"a\":\"\\n\\u0001\"\x7d\r\n \t\n\x7b\x7d" =
        .ok [[("a", .string "\n\x01"), ("b", .array [.number (.negative (-2))])], []] ∧
      ∃ detail, recordsOfLines "\x7b\x7d\n[]\r\n" = .error ⟨.serialization, detail⟩ := by
  constructor
  · have hnumber : Json.Storable 125 (.number (.negative (-2))) := .number (.negative (by decide) (by decide))
    have hrecord : Json.Storable 127
        (.members [("a", .string "\n\x01"), ("b", .array [.number (.negative (-2))])]) := by
      refine .members (by decide) (List.forall_mem_cons.mpr ⟨.string _, List.forall_mem_singleton.mpr ?_⟩)
      exact .array (List.forall_mem_singleton.mpr hnumber)
    have hwritten : Json.Rearranges
        (.members [("b", .array [.number (.negative (-2))]), ("a", .string "\n\x01")])
        (.members [("a", .string "\n\x01"), ("b", .array [.number (.negative (-2))])]) :=
      .members (.cons (.member (.array (.cons (.number _) .nil))) (.cons (.member (.string _)) .nil))
        (List.Perm.swap _ _ _)
    have hempty : WritesLine [[]] (Json.chars (.members [])) :=
      .record (.members .nil (List.forall_mem_nil _)) (.members .nil .nil)
    have hblank : WritesLine [] [' ', '\t'] := .blank (by decide) (by decide)
    exact (records_of_body _).1 _ (.more (.record hrecord hwritten) .returnFeed (.more hblank .feed (.last hempty)))
  · refine (records_of_body _).2 ['[', ']'] ?_ (by decide) ?_
    · have hline : IsLine ['[', ']'] (['[', ']'] ++ ['\r', '\n'] ++ []) := .ended (by decide) .returnFeed
      have hbody : IsLine ['[', ']'] (['\x7b', '\x7d'] ++ '\n' :: (['[', ']'] ++ ['\r', '\n'] ++ [])) := .later hline
      exact hbody
    · rintro ⟨lead, object, trail, heq, -, hobject, -⟩
      have hbrace : '\x7d' ∈ lead ++ object ++ trail :=
        List.mem_append_left _ (List.mem_append_right _ (List.mem_of_getLast? hobject.getLast?))
      rw [← heq] at hbrace
      exact absurd hbrace (by decide)

end BalanceSheet.StoreClient
