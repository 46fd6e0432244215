import ScannerDiscovery.Proofs.Endpoint

/-!
# The host of an endpoint

The host of a composed URI is the address that it has been composed of: written in small letters
already, it is left as it is, and read back without its scope.

Main results:

- `host?_compose` : the host, with the interface as the zone of a link-local IPv6 address.
- `address?_compose` : the address that a composed URI names.
-/

namespace ScannerDiscovery

namespace Ip

/-- An address without its scope. -/
def Address.unscoped : Address → Address
  | v4 octets => v4 octets
  | v6 groups _ => v6 groups none

/-! ## Small letters -/

/-- A digit of a number is that of a value below the base. -/
theorem exists_digitChar {b n : Nat} (hb : 1 < b) {c : Char} (hc : c ∈ Nat.toDigits b n) :
    ∃ k < b, c = k.digitChar := by
  induction n using Nat.base_induction b hb with
  | single m hm =>
      rw [Nat.toDigits_of_lt_base hm, List.mem_singleton] at hc
      exact ⟨m, hm, hc⟩
  | digit m k hk hm ih =>
      rw [← Nat.toDigits_append_toDigits hb hm hk, List.mem_append,
        Nat.toDigits_of_lt_base hk, List.mem_singleton] at hc
      exact hc.elim ih fun heq => ⟨k, hk, heq⟩

/-- Whether a character is its own small letter. -/
def IsSmall (c : Char) : Prop :=
  Text.lowercaseMap.apply c = [c] ∧ c ≠ Text.capitalSigma

instance (c : Char) : Decidable (IsSmall c) :=
  inferInstanceAs (Decidable (_ ∧ _))

theorem isSmall_digitChar {k : Nat} (hk : k < 16) : IsSmall k.digitChar := by
  have all : ∀ k < 16, IsSmall k.digitChar := by decide +kernel
  exact all k hk

/-- A text in small letters is left as it is. -/
theorem toLower_eq_self {text : List Char} (small : ∀ c ∈ text, IsSmall c) :
    Text.toLower text = text := by
  rw [Text.toLower_of_not_sigma text fun hmem => (small _ hmem).2 rfl, Text.CharMap.applyAll]
  induction text with
  | nil => rfl
  | cons c rest ih =>
      obtain ⟨hc, hrest⟩ := List.forall_mem_cons.1 small
      rw [List.flatMap_cons, hc.1, ih hrest, List.singleton_append]

/-- Dotted addresses are written in small letters. -/
theorem isSmall_chars_v4 {x : V4} {c : Char} (hc : c ∈ x.chars) : IsSmall c := by
  rcases mem_intercalate hc with rfl | ⟨part, hpart, hmem⟩
  · decide +kernel
  · obtain ⟨octet, -, rfl⟩ := List.mem_map.1 hpart
    obtain ⟨k, hk, rfl⟩ := exists_digitChar (by decide) hmem
    exact isSmall_digitChar (by omega)

/-- So are addresses with colons. -/
theorem isSmall_chars_v6 {x : V6} {c : Char} (hc : c ∈ x.chars) : IsSmall c := by
  have colon : IsSmall ':' := by decide +kernel
  have joined {groups : List UInt16} (hc : c ∈ joinGroups groups) : IsSmall c := by
    rcases mem_intercalate hc with rfl | ⟨part, hpart, hmem⟩
    · exact colon
    · obtain ⟨group, -, rfl⟩ := List.mem_map.1 hpart
      obtain ⟨k, hk, rfl⟩ := exists_digitChar (by decide) hmem
      exact isSmall_digitChar hk
  unfold V6.chars at hc
  simp only at hc
  split at hc
  · simp only [List.mem_append, List.mem_cons] at hc
    rcases hc with hc | rfl | rfl | hc
    · exact joined hc
    · exact colon
    · exact colon
    · exact joined hc
  · exact joined hc

/-- A dotted address is written without a percent sign. -/
theorem percent_notMem_chars_v4 {x : V4} : '%' ∉ x.chars := by
  intro hmem
  rcases mem_chars_v4 hmem with h | h
  · simp at h
  · simp at h

end Ip

namespace Endpoint

/-! ## Hosts -/

/-- The part of a host in front of its zone. -/
theorem takeWhile_hostText (address : Ip.Address) (ifindex : Int) :
    (hostText address ifindex).takeWhile (· != '%') = address.bareText.toList := by
  have whole {text : List Char} (none : '%' ∉ text) (rest : List Char) :
      (text ++ '%' :: rest).takeWhile (· != '%') = text ∧ text.takeWhile (· != '%') = text := by
    have plain : ∀ c ∈ text, (c != '%') = true := fun c hc => by
      simpa using fun heq : c = '%' => none (heq ▸ hc)
    exact ⟨by simp [List.takeWhile_append_of_pos plain], List.takeWhile_eq_self_iff.2 plain⟩
  cases address with
  | v4 octets => simpa [hostText, Ip.Address.bareText] using (whole Ip.percent_notMem_chars_v4 []).2
  | v6 groups scope =>
      have none : '%' ∉ groups.chars := Ip.notMem_chars_v6 (by decide) (by decide)
      unfold hostText
      simp only [Ip.Address.bareText, String.toList_ofList]
      split
      · exact (whole none _).1
      · exact (whole none []).2

/-- The host of a composed URI is left as it is written. -/
theorem host?_of_authority {uri : Uri} {address : Ip.Address} {port ifindex : Int}
    (h : uri.authority = authority address port ifindex) :
    uri.host? = some (hostText address ifindex) := by
  have present := host?_authority h
  have small : ∀ c ∈ address.bareText.toList, Ip.IsSmall c := by
    cases address with
    | v4 octets => simpa [Ip.Address.bareText] using fun c => Ip.isSmall_chars_v4 (x := octets)
    | v6 groups scope =>
        simpa [Ip.Address.bareText] using fun c => Ip.isSmall_chars_v6 (x := groups)
  simp only [Uri.host?, h, hostAndPort_authority] at present ⊢
  split at present
  · cases present
  · rename_i written
    rw [if_neg written]
    have lowered := Ip.toLower_eq_self small
    rw [← takeWhile_hostText address ifindex] at lowered
    rw [lowered, List.takeWhile_append_dropWhile]

variable {service : Service} {scheme : String}

/-- The scheme and the host of a composed URI. -/
theorem host?_compose (hscheme : service.scheme? = some scheme) (address : Ip.Address) (port : Int)
    (path : Option String) (ifindex : Int) :
    ∃ uri, Uri.split (compose scheme address port path ifindex).toList = .ok uri ∧
      uri.scheme = scheme.toList ∧ uri.host? = some (hostText address ifindex) :=
  ⟨_, split_compose hscheme address port path ifindex, rfl, host?_of_authority rfl⟩

/-- The address that a composed URI names. -/
theorem address?_compose (hscheme : service.scheme? = some scheme) (address : Ip.Address)
    (port : Int) (path : Option String) (ifindex : Int) :
    address? (compose scheme address port path ifindex) = some address.unscoped := by
  obtain ⟨uri, hsplit, -, hhost⟩ := host?_compose hscheme address port path ifindex
  simp only [address?, hsplit, hhost, Option.getD_some, Uri.before, takeWhile_hostText]
  cases address with
  | v4 octets =>
      simpa [Ip.Address.bareText, Ip.Address.unscoped] using Ip.readAddress?_chars_v4 octets
  | v6 groups scope =>
      simpa [Ip.Address.bareText, Ip.Address.unscoped] using Ip.readAddress?_chars_v6 groups

end Endpoint

end ScannerDiscovery
