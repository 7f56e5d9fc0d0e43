import BalanceSheet.Proofs.Text.Basic
import BalanceSheet.Url.Reader
import Mathlib.Data.List.TakeWhile

/-!
The place that an address names. In a scheme that the web knows, all but the host and the port can be any
text: what may not stand in the name of a user, in a path or in a query is escaped. So only a host or a port
that there cannot be keeps a text with such a scheme from being an address. Which names of other scripts are
hosts is up to the rule for names; on a name in plain ASCII characters all lawful rules agree.
-/

namespace BalanceSheet.Url

/-- What stands after the scheme and its slashes, up to the path. -/
def placeText (s : String) : List Char :=
  ((((cleaned s).dropWhile fun c => c ≠ ':').drop 1).dropWhile (isSlash true)).takeWhile fun c =>
    !isSlash true c && (c ≠ '?' && c ≠ '#')

/-- A host, and a port if there is one, as an address writes them. -/
structure Place where
  host : List Char
  port : Option (List Char)

/-- The host and the port that stand after the last at sign. -/
def Place.ofText (text : List Char) : Place :=
  let (host, port) := splitPort (splitLast '@' text).2
  ⟨host, port⟩

/-- Whether there may be such a host and such a port. -/
def Place.Exists [DomainRule] (p : Place) : Prop := (webHost? p.host).isSome = true ∧ (port? p.port).isSome = true

/-- The place that stands in a text where an address has it. -/
def place (s : String) : Place := .ofText (placeText s)

/-- Whether a text has a host and a port that there may be, where an address has them. -/
def NamesPlace [DomainRule] (s : String) : Prop := (place s).Exists

/-- Leaving out blanks keeps a start that has none. -/
theorem cleaned_append {s : String} {start rest : List Char} (hs : s.toList = start ++ rest)
    (hne : start ≠ []) (hstart : ∀ c ∈ start, isOuterBlank c = false) : ∃ rest, cleaned s = start ++ rest := by
  have hhead : (start ++ rest).dropWhile isOuterBlank = start ++ rest := by
    cases start with
    | nil => exact absurd rfl hne
    | cons c start => exact List.dropWhile_cons_of_neg (by simp [hstart])
  have hend : (start ++ rest).reverse.dropWhile isOuterBlank =
      rest.reverse.dropWhile isOuterBlank ++ start.reverse := by
    rw [List.reverse_append]
    exact Text.dropWhile_append_eq (fun c hc => hstart c (List.mem_reverse.mp hc)) _
  have hkept : ∀ c ∈ start, (c ≠ '\t' && c ≠ '\n' && c ≠ '\r') = true := by
    intro c hc
    have hblank := hstart c hc
    have hplain : c ≠ '\t' ∧ c ≠ '\n' ∧ c ≠ '\r' := by
      refine ⟨?_, ?_, ?_⟩
      all_goals
        rintro rfl
        exact absurd hblank (by decide)
    simp [hplain]
  rw [cleaned, hs, hhead, hend, List.reverse_append, List.reverse_reverse, List.filter_append,
    List.filter_eq_self.mpr hkept]
  exact ⟨_, rfl⟩

/-- A scheme is what stands before the first colon. -/
theorem after_of_scheme? {cs rest : List Char} {scheme : String} (h : scheme? cs = some (scheme, rest)) :
    (cs.dropWhile fun c => c ≠ ':').drop 1 = rest := by
  obtain ⟨⟨before, after⟩, hcut, h⟩ := Option.bind_eq_some_iff.mp h
  cases before with
  | nil => cases h
  | cons first before =>
      dsimp only at h
      split at h
      · cases h
        exact Text.after_of_cut hcut
      · cases h

section

variable [DomainRule] {scheme : String} {standardPort : Nat} {cs : List Char} {query : Option String}

theorem isSome_web?_iff : (web? scheme standardPort cs query).isSome = true ↔
    (Place.ofText ((cs.dropWhile (isSlash true)).takeWhile fun c => !isSlash true c)).Exists := by
  constructor
  · intro h
    obtain ⟨u, h⟩ := Option.isSome_iff_exists.mp h
    obtain ⟨port, hport, h⟩ := Option.bind_eq_some_iff.mp h
    obtain ⟨host, hhost, -⟩ := Option.bind_eq_some_iff.mp h
    exact ⟨Option.isSome_of_mem hhost, Option.isSome_of_mem hport⟩
  · rintro ⟨hhost, hport⟩
    obtain ⟨host, hhost⟩ := Option.isSome_iff_exists.mp hhost
    obtain ⟨port, hport⟩ := Option.isSome_iff_exists.mp hport
    exact Option.isSome_iff_exists.mpr
      ⟨_, Option.bind_eq_some_iff.mpr ⟨port, hport, Option.bind_eq_some_iff.mpr ⟨host, hhost, rfl⟩⟩⟩

theorem scheme_of_web? {u : Url} (h : web? scheme standardPort cs query = some u) : u.scheme = scheme := by
  obtain ⟨port, -, h⟩ := Option.bind_eq_some_iff.mp h
  obtain ⟨host, -, h⟩ := Option.bind_eq_some_iff.mp h
  cases h
  rfl

end

section

variable [DomainRule] {s scheme : String} {rest : List Char} {standardPort : Nat}

/-- An address in a scheme that the web knows is read by the rules of the web. -/
theorem parse?_eq_web? (hscheme : scheme? (cleaned s) = some (scheme, rest))
    (hport : webPorts.lookup scheme = some standardPort) : ∃ query, parse? s =
      web? scheme standardPort ((rest.takeWhile fun c => c ≠ '#').takeWhile fun c => c ≠ '?') query := by
  simp only [parse?, hscheme, Option.bind_eq_bind, Option.bind_some, ofParts?, hport]
  exact ⟨_, rfl⟩

/-- In a scheme that the web knows, a text is an address exactly if it names a place. -/
theorem isSome_parse?_iff (hscheme : scheme? (cleaned s) = some (scheme, rest))
    (hport : webPorts.lookup scheme = some standardPort) : (parse? s).isSome = true ↔ NamesPlace s := by
  obtain ⟨query, hparse⟩ := parse?_eq_web? hscheme hport
  have hslash (c : Char) (hc : isSlash true c = true) : decide (c ≠ '?' ∧ c ≠ '#') = true := by
    have hcases : c = '/' ∨ c = '\\' := by simpa [isSlash] using hc
    rcases hcases with rfl | rfl <;> decide
  -- a slash ends no part of an address before its path, so the slashes may be dropped first
  have hplace : placeText s =
      (((rest.takeWhile fun c => c ≠ '#').takeWhile fun c => c ≠ '?').dropWhile (isSlash true)).takeWhile
        fun c => !isSlash true c := by
    simp only [List.takeWhile_takeWhile, decide_eq_true_eq, Text.dropWhile_takeWhile hslash, placeText,
      after_of_scheme? hscheme]
    congr 1
    funext c
    simp
  rw [hparse, isSome_web?_iff, ← hplace]
  rfl

theorem scheme_of_parse? (hscheme : scheme? (cleaned s) = some (scheme, rest))
    (hport : webPorts.lookup scheme = some standardPort) {u : Url} (h : parse? s = some u) :
    u.scheme = scheme := by
  obtain ⟨query, hparse⟩ := parse?_eq_web? hscheme hport
  exact scheme_of_web? (hparse ▸ h)

end

/-! ### Names of hosts -/

/-- Whether a name is in ASCII characters, and no part of it spells out a name of another script. -/
def isPlainName (name : List Char) : Bool :=
  name.all (· ≤ '\x7f') && (name.splitOn '.').all fun part => !"xn--".toList.isPrefixOf (part.map Char.toLower)

/-- A lawful rule puts plain names in small letters, and takes none with a character that no name has. -/
class DomainRule.Lawful (rule : DomainRule) : Prop where
  toAscii?_of_plain : ∀ name, isPlainName name = true →
    rule.toAscii? name = if name.any isForbiddenInName then none else some (name.map Char.toLower)

/-- Without tables plain names are read all the same. -/
theorem DomainRule.lawful_lowering : DomainRule.lowering.Lawful := by
  refine ⟨fun name hplain => ?_⟩
  have hreplacement : name.contains Utf8.replacement = false := by
    rw [Bool.eq_false_iff, ne_eq, List.contains_iff_mem]
    intro hmem
    exact absurd (List.all_eq_true.mp (Bool.and_eq_true_iff.mp hplain).1 _ hmem) (by decide)
  show (if (name.any isForbiddenInName || name.contains Utf8.replacement) = true then _ else _) = _
  rw [hreplacement, Bool.or_false]

/-- The name that a text stands for where it is not an address in square brackets. -/
def hostName (text : List Char) : List Char := Utf8.decode (Percent.bytes text)

/-- Whether a host is the same under every rule: an address in square brackets or a plain name. -/
def isPlainHost (text : List Char) : Bool := text.head? = some '[' || isPlainName (hostName text)

/-- Whether there is a plain host: an address, or a name with characters that a name may have, which is an
address of the fourth version if it ends in a number. -/
def isHost : List Char → Bool
  | '[' :: inside => (bracketed? inside).isSome
  | text => !(hostName text).any isForbiddenInName && (hostOfName? ((hostName text).map Char.toLower)).isSome

/-- Under every lawful rule the plain hosts are these. -/
theorem isSome_webHost?_of_plain [rule : DomainRule] [rule.Lawful] {text : List Char} (h : isPlainHost text = true) :
    (webHost? text).isSome = isHost text := by
  unfold webHost?
  split
  case h_1 inside => exact Option.isSome_map
  case h_2 hopen =>
    have hname : isPlainName (hostName text) = true := by
      rcases Bool.or_eq_true_iff.mp h with hhead | hname
      · obtain ⟨inside, rfl⟩ := List.head?_eq_some_iff.mp (of_decide_eq_true hhead)
        exact absurd rfl (hopen inside)
      · exact hname
    have hhost : isHost text = (!(hostName text).any isForbiddenInName &&
        (hostOfName? ((hostName text).map Char.toLower)).isSome) := by
      unfold isHost
      split
      case h_1 inside => exact absurd rfl (hopen inside)
      case h_2 => rfl
    rw [hhost, ← hostName, DomainRule.Lawful.toAscii?_of_plain _ hname]
    cases (hostName text).any isForbiddenInName <;> rfl

/-- Under every lawful rule an address with a plain host names a place exactly if host and port are such. -/
theorem namesPlace_iff_of_plain [rule : DomainRule] [rule.Lawful] {s : String}
    (h : isPlainHost (place s).host = true) :
    NamesPlace s ↔ isHost (place s).host = true ∧ (port? (place s).port).isSome = true := by
  rw [NamesPlace, Place.Exists, isSome_webHost?_of_plain h]

end BalanceSheet.Url
