import BalanceSheet.Config.Validation
import BalanceSheet.Proofs.Except
import BalanceSheet.Proofs.Net.Text

/-!
Addresses as the host of the server. Host and port are put together with a colon and read as one text, in which an
address of the sixth version stands in brackets. Such an address alone is therefore refused as if it were none, while
one of the fourth version, or one of the sixth in brackets, is what the server listens on.
-/

namespace BalanceSheet

namespace Text

/-- A text with a character that is not blank is not blank. -/
theorem isBlankText_of_mem {s : String} {c : Char} (hc : isBlank c = false) (hmem : c ∈ s.toList) :
    isBlankText s = false :=
  List.all_eq_false.mpr ⟨c, hmem, by simp [hc]⟩

end Text

namespace Config

variable {c : Config} {host : String} {port : UInt16}

/-- The configuration with its server at another host and port. -/
def listeningAt (c : Config) (host : String) (port : UInt16) : Config :=
  { c with server := { c.server with host := host, port := port.toNat } }

/-- Under an otherwise accepted configuration only host and port can be at fault. -/
theorem fault?_listeningAt (h : c.fault? = none) (hport : port ≠ 0) (hhost : Text.isBlankText host = false) :
    (c.listeningAt host port).fault? =
      if (c.listeningAt host port).server.address?.isNone then some (.invalid (.hostNotAddress host)) else none := by
  obtain ⟨hothers, hfile⟩ := Option.or_eq_none_iff.mp h
  obtain ⟨hstore, hserver⟩ := Option.or_eq_none_iff.mp hothers
  have honly : (c.listeningAt host port).fault? = (c.listeningAt host port).server.fault? := by
    change (c.store.fault?.or _).or (if c.registryFile = some "" then _ else none) = _
    rw [hstore, hfile, Option.none_or, Option.or_none]
  have horigins : c.server.origins.any Text.isBlankText = false := by
    simp only [ServerSettings.fault?, Except.refuse_eq_none_iff] at hserver
    obtain ⟨-, -, -, horigins, -⟩ := hserver
    simpa only [Bool.not_eq_true] using horigins
  have hport : port.toNat ≠ 0 := fun hzero => hport (UInt16.toNat_inj.mp hzero)
  rw [honly, ServerSettings.fault?]
  simp only [listeningAt, hhost, hport, horigins]
  rfl

/-- Every address of the fourth version may be the host and is listened on. One of the sixth version may be it in
brackets and not alone: alone it is refused with the report that it is no address. -/
theorem listeningAt_ip (h : c.fault? = none) (hport : port ≠ 0) :
    (∀ ip : Ipv4, (c.listeningAt ip.text port).fault? = none ∧
      (c.listeningAt ip.text port).server.address? = some (.v4 ip port)) ∧
    ∀ ip : Ipv6,
      ((c.listeningAt ip.text port).fault? = some (.invalid (.hostNotAddress ip.text)) ∧
        (c.listeningAt ip.text port).server.address? = none) ∧
      (c.listeningAt ("[" ++ ip.text ++ "]") port).fault? = none ∧
        (c.listeningAt ("[" ++ ip.text ++ "]") port).server.address? = some (.v6 ip 0 port) := by
  refine ⟨fun ip => ?_, fun ip => ⟨?_, ?_⟩⟩
  · have haddress : (c.listeningAt ip.text port).server.address? = some (.v4 ip port) := SocketAddress.parse?_ipv4 ip port
    have hhost : Text.isBlankText ip.text = false :=
      Text.isBlankText_of_mem (c := '.') (by decide) (by simp [Net.toList_text_ipv4])
    rw [fault?_listeningAt h hport hhost, haddress]
    exact ⟨rfl, rfl⟩
  · have haddress : (c.listeningAt ip.text port).server.address? = none := SocketAddress.parse?_ipv6_bare ip port
    obtain ⟨ds, more, -, htext⟩ := Net.exists_hex_colon ip
    have hhost : Text.isBlankText ip.text = false :=
      Text.isBlankText_of_mem (c := ':') (by decide) (by simp [htext])
    rw [fault?_listeningAt h hport hhost, haddress]
    exact ⟨rfl, rfl⟩
  · have haddress : (c.listeningAt ("[" ++ ip.text ++ "]") port).server.address? = some (.v6 ip 0 port) :=
      SocketAddress.parse?_ipv6 ip port
    have hhost : Text.isBlankText ("[" ++ ip.text ++ "]") = false :=
      Text.isBlankText_of_mem (c := ']') (by decide) (by simp)
    rw [fault?_listeningAt h hport hhost, haddress]
    exact ⟨rfl, rfl⟩

/-- An address whose zeros are drawn together in the middle, in brackets. -/
theorem listeningAt_ip_documentation : standard.fault? = none ∧ (8443 : UInt16) ≠ 0 ∧
    (standard.listeningAt "[2001:db8::1]" 8443).fault? = none ∧
    (standard.listeningAt "[2001:db8::1]" 8443).server.address? =
      some (.v6 ⟨[0x2001, 0xdb8, 0, 0, 0, 0, 0, 1], rfl⟩ 0 8443) := by
  have haccepted : standard.fault? = none := by decide +kernel
  have htext : Ipv6.text ⟨[0x2001, 0xdb8, 0, 0, 0, 0, 0, 1], rfl⟩ = "2001:db8::1" := by decide +kernel
  have hport : (8443 : UInt16) ≠ 0 := by decide
  have hlisten := ((listeningAt_ip haccepted hport).2 ⟨[0x2001, 0xdb8, 0, 0, 0, 0, 0, 1], rfl⟩).2
  rw [htext] at hlisten
  exact ⟨haccepted, hport, hlisten⟩

/-- The address of the machine itself is refused. -/
theorem loopback_refused : standard.fault? = none ∧ Ipv6.text ⟨[0, 0, 0, 0, 0, 0, 0, 1], rfl⟩ = "::1" ∧
    (standard.listeningAt "::1" 3000).fault? = some (.invalid (.hostNotAddress "::1")) ∧
    (standard.listeningAt "::1" 3000).server.address? = none := by
  decide +kernel

end Config
end BalanceSheet
