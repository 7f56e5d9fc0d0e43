import BalanceSheet.Net.Address
import BalanceSheet.Proofs.Text.Basic
import Mathlib.Data.List.Basic
import Mathlib.Data.List.TakeWhile

/-!
Addresses written and read back. An address of the sixth version is read group by group: each group is over where
a colon or a bracket comes, and no group can be taken for the start of an address of the fourth version, which goes on
with a point. The double colon stands for the groups that the two sides leave, so it is no matter which run of zeros
was drawn together. With a port, the text of such an address is read in square brackets only.
-/

namespace BalanceSheet

open Text (isHex)

namespace Net

variable {rest : List Char}

theorem number?_toDigits {most n : Nat} (h : n ≤ most) (hrest : ∀ c ∈ rest.head?, c.isDigit = false) :
    number? most (Nat.toDigits 10 n ++ rest) = some (n, rest) := by
  obtain ⟨htake, hdrop⟩ := Text.takeWhile_append_of_stop (fun _ => Text.isDigit_of_mem_toDigits) hrest
  rw [number?, htake, hdrop, Text.digits?_toDigits]
  exact if_pos h

/-! ### The fourth version -/

theorem octet?_toDigits (b : UInt8) (hrest : ∀ c ∈ rest.head?, c.isDigit = false) :
    octet? (Nat.toDigits 10 b.toNat ++ rest) = some (b, rest) := by
  have hb : b.toNat < 256 := b.toNat_lt
  have hlength : (Nat.toDigits 10 b.toNat).length ≤ 3 :=
    (Nat.length_toDigits_le_iff (by decide) (by decide)).mpr (Nat.lt_of_lt_of_le hb (by decide))
  -- only zero starts with a zero, and it has no other digit
  have hfront : (Nat.toDigits 10 b.toNat).length = 1 ∨ (Nat.toDigits 10 b.toNat).head? ≠ some '0' := by
    by_cases hzero : (Nat.toDigits 10 b.toNat).head? = some '0'
    · left
      rw [Text.eq_zero_of_head?_toDigits hzero]
      rfl
    · exact .inr hzero
  rw [octet?, number?_toDigits (by omega) hrest]
  simp [Text.takeWhile_append_of_stop (fun _ => Text.isDigit_of_mem_toDigits) hrest, hlength, hfront]

theorem toList_text_ipv4 (ip : Ipv4) : ip.text.toList =
    Nat.toDigits 10 ip.a.toNat ++ '.' :: (Nat.toDigits 10 ip.b.toNat ++ '.' ::
      (Nat.toDigits 10 ip.c.toNat ++ '.' :: Nat.toDigits 10 ip.d.toNat)) := by
  simp [Ipv4.text]

theorem ipv4?_text (ip : Ipv4) (hrest : ∀ c ∈ rest.head?, c.isDigit = false) :
    ipv4? (ip.text.toList ++ rest) = some (ip, rest) := by
  have hpoint (cs : List Char) : ∀ c ∈ ('.' :: cs).head?, c.isDigit = false := by
    rintro _ ⟨⟩
    rfl
  simp only [ipv4?, toList_text_ipv4, List.append_assoc, List.cons_append, octet?_toDigits _ (hpoint _),
    octet?_toDigits _ hrest, dropChar?, Option.bind_eq_bind, Option.bind_some, if_true]
  rfl

theorem dropChar?_eq_none {d : Char} {cs : List Char} (h : ∀ c ∈ cs.head?, c ≠ d) : dropChar? d cs = none := by
  cases cs with
  | nil => rfl
  | cons c cs => exact if_neg (h c rfl).symm

theorem rest_of_octet? {cs after : List Char} {b : UInt8} (h : octet? cs = some (b, after)) :
    after = cs.dropWhile Char.isDigit := by
  obtain ⟨⟨n, rest⟩, hnumber, h⟩ := Option.bind_eq_some_iff.mp h
  obtain ⟨m, -, hnumber⟩ := Option.bind_eq_some_iff.mp hnumber
  obtain ⟨-, hnumber⟩ := Option.ite_none_right_eq_some.mp hnumber
  obtain ⟨-, h⟩ := Option.ite_none_right_eq_some.mp h
  cases hnumber
  cases h
  rfl

/-- An address of the fourth version has a point after its first digits. -/
theorem ipv4?_eq_none {cs : List Char} (h : ∀ c ∈ (cs.dropWhile Char.isDigit).head?, c ≠ '.') : ipv4? cs = none := by
  rw [ipv4?]
  cases hoctet : octet? cs with
  | none => rfl
  | some read =>
      obtain ⟨b, after⟩ := read
      have hpoint : dropChar? '.' after = none := dropChar?_eq_none (rest_of_octet? hoctet ▸ h)
      simp [hpoint]

/-! ### Groups -/

theorem toList_groupText (g : UInt16) : (Ipv6.groupText g).toList = Nat.toDigits 16 g.toNat := by
  rw [Ipv6.groupText, String.toList_ofList]

theorem group?_toDigits (g : UInt16) (hrest : ∀ c ∈ rest.head?, isHex c = false) :
    group? (Nat.toDigits 16 g.toNat ++ rest) = some (g, rest) := by
  have hlength : (Nat.toDigits 16 g.toNat).length ≤ 4 :=
    (Nat.length_toDigits_le_iff (by decide) (by decide)).mpr (Nat.lt_of_lt_of_le g.toNat_lt (by decide))
  obtain ⟨htake, hdrop⟩ := Text.takeWhile_append_of_stop (fun _ => Text.isHex_of_mem_toDigits) hrest
  rw [group?, htake, hdrop]
  simp [Nat.toDigits_ne_nil, Nat.not_lt.mpr hlength, Text.ofHex?_toDigits]

/-- Neither a group nor a point comes next. -/
def Apart (rest : List Char) : Prop := ∀ c ∈ rest.head?, isHex c = false ∧ c ≠ '.'

theorem apart_colon (after : List Char) : Apart (':' :: after) := by
  rintro _ ⟨⟩
  decide

theorem Apart.not_isDigit (h : Apart rest) : ∀ c ∈ rest.head?, c.isDigit = false := by
  intro c hc
  have hhex : isHex c = false := (h c hc).1
  cases hdigit : c.isDigit with
  | false => rfl
  | true =>
      rw [Text.isHex_of_isDigit hdigit] at hhex
      cases hhex

/-- Hexadecimal digits are no start of an address of the fourth version. -/
theorem ipv4?_hex {ds : List Char} (hds : ∀ c ∈ ds, isHex c = true) (hrest : Apart rest) : ipv4? (ds ++ rest) = none := by
  refine ipv4?_eq_none fun c hc => ?_
  rw [List.dropWhile_append] at hc
  split at hc
  case isTrue =>
    have hstop : rest.dropWhile Char.isDigit = rest :=
      (Text.takeWhile_append_of_stop (List.forall_mem_nil _) hrest.not_isDigit).2
    exact (hrest c (hstop ▸ hc)).2
  case isFalse hne =>
    have hmem : c ∈ ds.dropWhile Char.isDigit := by
      rw [List.head?_append_of_ne_nil _ (by simpa using hne)] at hc
      exact List.mem_of_mem_head? hc
    rintro rfl
    exact absurd (hds '.' ((List.dropWhile_sublist _).mem hmem)) (by decide)

theorem Apart.ipv4?_eq_none (h : Apart rest) : ipv4? rest = none := by
  have hdigits : ipv4? ([] ++ rest) = none := ipv4?_hex (List.forall_mem_nil _) h
  exact hdigits

theorem Apart.group?_eq_none (h : Apart rest) : group? rest = none := by
  have hhex : ∀ c ∈ rest.head?, isHex c = false := fun c hc => (h c hc).1
  have htake : rest.takeWhile isHex = [] := (Text.takeWhile_append_of_stop (List.forall_mem_nil _) hhex).1
  rw [group?, htake]
  rfl

/-! One group, where `start` is what stands behind the colon that a group has before it unless it is the first. -/

section

variable {most : Nat} {isFirst : Bool} {cs start : List Char}

theorem groups_more {g : UInt16}
    (hstart : (if isFirst then some cs else dropChar? ':' cs) = some (Nat.toDigits 16 g.toNat ++ rest))
    (hrest : Apart rest) : groups (most + 1) isFirst cs =
      (g :: (groups most false rest).1, (groups most false rest).2.1, (groups most false rest).2.2) := by
  have hip : ipv4? (Nat.toDigits 16 g.toNat ++ rest) = none := ipv4?_hex (fun _ => Text.isHex_of_mem_toDigits) hrest
  have hgroup := group?_toDigits g fun c hc => (hrest c hc).1
  simp [groups, hstart, hip, hgroup]

theorem groups_end (hstart : (if isFirst then some cs else dropChar? ':' cs) = some start) (h : Apart start) :
    groups (most + 1) isFirst cs = ([], false, cs) := by
  simp [groups, hstart, h.ipv4?_eq_none, h.group?_eq_none]

theorem groups_ipv4 {ip : Ipv4} (hstart : (if isFirst then some cs else dropChar? ':' cs) = some start)
    (hmost : 1 ≤ most) (hip : ipv4? start = some (ip, rest)) :
    groups (most + 1) isFirst cs = (ip.groups, true, rest) := by
  simp [groups, hstart, hip, hmost]

end

/-- Here the groups are over, however many more there may be. -/
structure EndsGroups (rest : List Char) : Prop where
  apart : Apart rest
  stops : ∀ most, groups most false rest = ([], false, rest)

theorem endsGroups_bracket (after : List Char) : EndsGroups (']' :: after) := by
  constructor
  · rintro _ ⟨⟩
    decide
  · intro most
    cases most <;> rfl

/-- A double colon ends the groups before it. -/
theorem endsGroups_colons (after : List Char) : EndsGroups (':' :: ':' :: after) := by
  refine ⟨apart_colon _, fun most => ?_⟩
  cases most with
  | zero => rfl
  | succ most => exact groups_end rfl (apart_colon after)

/-- Groups behind others, each with a colon before it. -/
def laterChars (gs : List UInt16) : List Char := gs.flatMap fun g => ':' :: Nat.toDigits 16 g.toNat

theorem apart_laterChars_append (gs : List UInt16) (hrest : Apart rest) : Apart (laterChars gs ++ rest) := by
  cases gs with
  | nil => exact hrest
  | cons g gs =>
      rintro _ ⟨⟩
      decide

theorem toList_groupsText_cons (g : UInt16) (gs : List UInt16) :
    (Ipv6.groupsText (g :: gs)).toList = Nat.toDigits 16 g.toNat ++ laterChars gs := by
  have hlater (gs : List UInt16) (g : UInt16) :
      [':'].intercalate ((g :: gs).map fun g => Nat.toDigits 16 g.toNat) = Nat.toDigits 16 g.toNat ++ laterChars gs := by
    induction gs generalizing g with
    | nil => simp [laterChars]
    | cons g' gs ih =>
        have hnext := ih g'
        rw [List.map_cons] at hnext
        rw [List.map_cons, List.map_cons, List.intercalate_cons_cons, hnext]
        simp [laterChars]
  rw [← hlater, Ipv6.groupsText, String.toList_intercalate, List.map_map]
  simp only [Function.comp_def, toList_groupText]
  rfl

theorem groups_laterChars {gs : List UInt16} {most : Nat} (hlength : gs.length ≤ most) (hrest : EndsGroups rest) :
    groups most false (laterChars gs ++ rest) = (gs, false, rest) := by
  induction gs generalizing most with
  | nil => exact hrest.stops most
  | cons g gs ih =>
      have htext : laterChars (g :: gs) ++ rest = ':' :: (Nat.toDigits 16 g.toNat ++ (laterChars gs ++ rest)) := by
        simp [laterChars]
      cases most with
      | zero => cases hlength
      | succ most =>
          rw [htext, groups_more rfl (apart_laterChars_append gs hrest.apart), ih (Nat.le_of_succ_le_succ hlength)]

/-- Groups are read as they are written, up to where they end. -/
theorem groups_groupsText {gs : List UInt16} {most : Nat} (hlength : gs.length ≤ most) (hrest : EndsGroups rest) :
    groups most true ((Ipv6.groupsText gs).toList ++ rest) = (gs, false, rest) := by
  cases gs with
  | nil =>
      cases most with
      | zero => rfl
      | succ most => exact groups_end rfl hrest.apart
  | cons g gs =>
      cases most with
      | zero => cases hlength
      | succ most =>
          rw [toList_groupsText_cons, List.append_assoc, groups_more rfl (apart_laterChars_append gs hrest.apart),
            groups_laterChars (Nat.le_of_succ_le_succ hlength) hrest]

end Net

/-! ### Zeros -/

namespace Ipv6

/-- What stands for the longest run is a run: there are as many zeros in that place. -/
theorem longestZeros_eq (gs : List UInt16) :
    (longestZeros gs).2 = 0 ∨ (longestZeros gs).2 = zerosFrom gs (longestZeros gs).1 := by
  have hkept (starts : List Nat) (best : Nat × Nat) (hbest : best.2 = 0 ∨ best.2 = zerosFrom gs best.1) :
      let found := starts.foldl
        (fun best start => if best.2 < zerosFrom gs start then (start, zerosFrom gs start) else best) best
      found.2 = 0 ∨ found.2 = zerosFrom gs found.1 := by
    induction starts generalizing best with
    | nil => exact hbest
    | cons start starts ih =>
        refine ih _ ?_
        dsimp only
        split
        · exact .inr rfl
        · exact hbest
  exact hkept (List.range gs.length) (0, 0) (.inl rfl)

/-- Zeros from a place on may be drawn together. -/
theorem zerosFrom_spec (gs : List UInt16) (start : Nat) :
    gs.take start ++ List.replicate (zerosFrom gs start) 0 ++ gs.drop (start + zerosFrom gs start) = gs := by
  have hrun : (gs.drop start).takeWhile (· == 0) = List.replicate (zerosFrom gs start) 0 :=
    List.eq_replicate_of_mem fun g hg => by simpa using List.mem_takeWhile_imp hg
  have hsplit : List.replicate (zerosFrom gs start) 0 ++ (gs.drop start).dropWhile (· == 0) = gs.drop start := by
    rw [← hrun, List.takeWhile_append_dropWhile]
  have hbehind : gs.drop (start + zerosFrom gs start) = (gs.drop start).dropWhile (· == 0) := by
    rw [← List.drop_drop]
    exact (congrArg _ hsplit.symm).trans (List.drop_left' List.length_replicate)
  rw [hbehind, List.append_assoc, hsplit, List.take_append_drop]

/-! ### The sixth version -/

/-- The groups of an address of the fourth version are kept. -/
theorem groups_ofGroups (high low : UInt16) : (Ipv4.ofGroups high low).groups = [high, low] := by
  have hbytes (g : UInt16) : (g / 256).toUInt8.toUInt16 * 256 + g.toUInt8.toUInt16 = g := by
    have hg : g.toNat < 65536 := g.toNat_lt
    rw [← UInt16.toNat_inj]
    simp only [UInt16.toNat_add, UInt16.toNat_mul, UInt8.toNat_toUInt16, UInt16.toNat_toUInt8, UInt16.toNat_div,
      UInt16.toNat_ofNat, Nat.reducePow, Nat.reduceMod]
    omega
  simp only [Ipv4.groups, Ipv4.ofGroups, hbytes]

theorem groups_of_mapped? {ip : Ipv6} {v4 : Ipv4} (h : ip.mapped? = some v4) :
    ip.groups = [0, 0, 0, 0, 0, 0xffff] ++ v4.groups := by
  rw [mapped?] at h
  split at h
  case h_1 high low hgroups =>
    cases h
    rw [hgroups, groups_ofGroups]
    rfl
  case h_2 => cases h

end Ipv6

namespace Net

theorem ipv6OfGroups?_groups (ip : Ipv6) : ipv6OfGroups? ip.groups = some ip := dif_pos ip.length_groups

/-- Groups on both sides of a double colon are read with as many zeros between them as are missing. -/
theorem ipv6?_colons {ip : Ipv6} {head tail : List UInt16} {zeros : Nat} {inside rest : List Char} {endsInIpv4 : Bool}
    (hgroups : head ++ List.replicate zeros 0 ++ tail = ip.groups) (hzeros : 0 < zeros)
    (hinside : groups (7 - head.length) true inside = (tail, endsInIpv4, rest)) :
    ipv6? ((Ipv6.groupsText head).toList ++ ':' :: ':' :: inside) = some (ip, rest) := by
  have hlength : head.length + zeros + tail.length = 8 := by
    simpa [Nat.add_assoc] using (congrArg List.length hgroups).trans ip.length_groups
  have hhead : groups 8 true _ = (head, _) := groups_groupsText (by omega) (endsGroups_colons inside)
  have hmissing : 8 - head.length - tail.length = zeros := by omega
  rw [ipv6?, hhead]
  simp only [Option.bind_eq_bind, dropChar?, if_true, Option.bind_some, hinside, hmissing, hgroups,
    ipv6OfGroups?_groups, if_neg (show ¬head.length = 8 by omega)]
  rfl

/-- Behind the double colon of an address that stands for one of the fourth version is a group of ones. -/
theorem groups_mapped (v4 : Ipv4) (hrest : ∀ c ∈ rest.head?, c.isDigit = false) :
    groups 7 true (['f', 'f', 'f', 'f'] ++ ':' :: (v4.text.toList ++ rest)) = (0xffff :: v4.groups, true, rest) := by
  have hones : ['f', 'f', 'f', 'f'] = Nat.toDigits 16 (0xffff : UInt16).toNat := by decide +kernel
  rw [hones, groups_more rfl (apart_colon _), groups_ipv4 rfl (by decide) (ipv4?_text v4 hrest)]

/-- An address of the sixth version is read up to the bracket that follows it. -/
theorem ipv6?_text (ip : Ipv6) (after : List Char) :
    ipv6? (ip.text.toList ++ ']' :: after) = some (ip, ']' :: after) := by
  have hends : EndsGroups (']' :: after) := endsGroups_bracket after
  rw [Ipv6.text]
  split
  case h_1 v4 hmapped =>
    have hgroups : [] ++ List.replicate 5 0 ++ 0xffff :: v4.groups = ip.groups := (Ipv6.groups_of_mapped? hmapped).symm
    have hread := ipv6?_colons hgroups (by decide) (groups_mapped v4 hends.apart.not_isDigit)
    have hfront : "::ffff:".toList = (Ipv6.groupsText []).toList ++ [':', ':', 'f', 'f', 'f', 'f', ':'] := by
      decide +kernel
    rw [String.toList_append, hfront]
    simpa only [List.append_assoc, List.cons_append, List.nil_append] using hread
  case h_2 =>
    dsimp only
    split
    case isTrue hlong =>
      -- which run was chosen does not matter from here on, only that it is one
      have hrun := (Ipv6.longestZeros_eq ip.groups).resolve_left (by omega)
      generalize (Ipv6.longestZeros ip.groups).1 = start at hrun ⊢
      generalize (Ipv6.longestZeros ip.groups).2 = length at hlong hrun ⊢
      have htail : (ip.groups.drop (start + length)).length ≤ 7 - (ip.groups.take start).length := by
        rw [List.length_drop, List.length_take, ip.length_groups]
        omega
      have hread := ipv6?_colons (hrun ▸ Ipv6.zerosFrom_spec ip.groups start) (by omega) (groups_groupsText htail hends)
      rw [String.toList_append, String.toList_append, List.append_assoc, List.append_assoc]
      exact hread
    case isFalse =>
      have hread : groups 8 true _ = (ip.groups, _) := groups_groupsText (Nat.le_of_eq ip.length_groups) hends
      rw [ipv6?, hread]
      simp [ip.length_groups, ipv6OfGroups?_groups]

/-- An address of the sixth version starts with digits and a colon, or with a colon at once. -/
theorem exists_hex_colon (ip : Ipv6) :
    ∃ ds more, (∀ c ∈ ds, isHex c = true) ∧ ip.text.toList = ds ++ ':' :: more := by
  have hfront (gs : List UInt16) (after : List Char) :
      ∃ ds more, (∀ c ∈ ds, isHex c = true) ∧ (Ipv6.groupsText gs).toList ++ ':' :: after = ds ++ ':' :: more := by
    cases gs with
    | nil => exact ⟨[], after, List.forall_mem_nil _, rfl⟩
    | cons g gs =>
        rw [toList_groupsText_cons, List.append_assoc]
        cases gs with
        | nil => exact ⟨_, _, fun _ => Text.isHex_of_mem_toDigits, rfl⟩
        | cons g' gs => exact ⟨_, _, fun _ => Text.isHex_of_mem_toDigits, rfl⟩
  rw [Ipv6.text]
  split
  case h_1 => exact ⟨[], _, List.forall_mem_nil _, String.toList_append⟩
  case h_2 =>
    dsimp only
    split
    case isTrue =>
      rw [String.toList_append, String.toList_append, List.append_assoc]
      exact hfront _ _
    case isFalse =>
      -- there are eight groups, so one stands behind another
      match hgroups : ip.groups, ip.length_groups with
      | g :: g' :: gs, _ =>
        rw [toList_groupsText_cons]
        exact ⟨_, _, fun _ => Text.isHex_of_mem_toDigits, rfl⟩

/-! ### With a port -/

theorem port?_toDigits (port : UInt16) : port? (':' :: Nat.toDigits 10 port.toNat) = some port := by
  have hport : port.toNat ≤ Decimal.maxUInt16 := Nat.le_of_lt_succ port.toNat_lt
  have hnumber : number? Decimal.maxUInt16 (Nat.toDigits 10 port.toNat ++ []) = some (port.toNat, []) :=
    number?_toDigits hport nofun
  rw [List.append_nil] at hnumber
  simp [port?, dropChar?, hnumber]

end Net

namespace SocketAddress

open Net

theorem toList_hostAndPort (host : String) (port : UInt16) :
    (host ++ ":" ++ toString port.toNat).toList = host.toList ++ ':' :: Nat.toDigits 10 port.toNat := by
  simp

theorem parse?_ipv4 (ip : Ipv4) (port : UInt16) :
    parse? (ip.text ++ ":" ++ toString port.toNat) = some (.v4 ip port) := by
  have hip : ipv4? (ip.text.toList ++ ':' :: Nat.toDigits 10 port.toNat) = _ := ipv4?_text ip (by rintro _ ⟨⟩; rfl)
  rw [parse?, toList_hostAndPort]
  simp [socketAddressV4?, hip, port?_toDigits]

/-- Without brackets, the colon of the port is no other than those of the address. -/
theorem parse?_ipv6_bare (ip : Ipv6) (port : UInt16) : parse? (ip.text ++ ":" ++ toString port.toNat) = none := by
  obtain ⟨ds, more, hds, htext⟩ := exists_hex_colon ip
  have hbracket (after : List Char) : dropChar? '[' (ds ++ ':' :: after) = none := by
    refine dropChar?_eq_none fun c hc => ?_
    cases ds with
    | nil =>
        cases hc
        decide
    | cons d ds =>
        cases hc
        rintro rfl
        exact absurd (hds '[' List.mem_cons_self) (by decide)
  rw [parse?, toList_hostAndPort, htext, List.append_assoc, List.cons_append]
  simp [socketAddressV4?, socketAddressV6?, ipv4?_hex hds (apart_colon _), hbracket]

theorem parse?_ipv6 (ip : Ipv6) (port : UInt16) :
    parse? ("[" ++ ip.text ++ "]" ++ ":" ++ toString port.toNat) = some (.v6 ip 0 port) := by
  have hbracket (after : List Char) : ipv4? ('[' :: after) = none :=
    ipv4?_eq_none (by rintro _ ⟨⟩; decide)
  have htext : ("[" ++ ip.text ++ "]" ++ ":" ++ toString port.toNat).toList =
      '[' :: (ip.text.toList ++ ']' :: ':' :: Nat.toDigits 10 port.toNat) := by
    simp
  rw [parse?, htext]
  simp [socketAddressV4?, socketAddressV6?, hbracket, dropChar?, ipv6?_text, scope, port?_toDigits]

end SocketAddress
end BalanceSheet
