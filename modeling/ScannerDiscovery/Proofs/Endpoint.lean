import ScannerDiscovery.Endpoint
import ScannerDiscovery.Proofs.Ip.Written

/-!
# Composed endpoints are read back

The URI of a scan service is split into the scheme, host and port that it has been composed of,
whatever address, interface and resource path have been announced.

Main definitions:

- `hostText` : an address as the host of a URI, without brackets.

Main results:

- `hostAndPort_authority` : host and port of a composed authority.
- `split_compose` : the parts of a composed URI.
- `namesHostAndPort_compose` : a composed URI names host and port exactly if the port exists.
- `make_of_port` : so the endpoint of a scan service can be made for every port that exists.
-/

namespace ScannerDiscovery

/-! ## Text around a separator -/

namespace Uri

/-- What stands before the first separator. -/
theorem before_append {separator : Char} {text : List Char} (h : separator ∉ text)
    (rest : List Char) : before separator (text ++ separator :: rest) = text := by
  have hplain : ∀ c ∈ text, (c != separator) = true := by
    intro c hc
    have hne : c ≠ separator := fun heq => h (heq ▸ hc)
    simpa using hne
  rw [before, List.takeWhile_append_of_pos hplain, List.takeWhile_cons_of_neg (by simp),
    List.append_nil]

/-- What stands behind the first separator. -/
theorem after_append {separator : Char} {text : List Char} (h : separator ∉ text)
    (rest : List Char) : after separator (text ++ separator :: rest) = rest := by
  have hplain : ∀ c ∈ text, (c != separator) = true := by
    intro c hc
    have hne : c ≠ separator := fun heq => h (heq ▸ hc)
    simpa using hne
  rw [after, List.dropWhile_append_of_pos hplain, List.dropWhile_cons_of_neg (by simp),
    List.drop_one, List.tail_cons]

theorem afterLast_of_notMem {separator : Char} {text : List Char} (h : separator ∉ text) :
    afterLast separator text = text := by
  have hplain : text.reverse.takeWhile (· != separator) = text.reverse := by
    rw [List.takeWhile_eq_self_iff]
    intro c hc
    have hne : c ≠ separator := fun heq => h (heq ▸ List.mem_reverse.1 hc)
    simpa using hne
  rw [afterLast, hplain, List.reverse_reverse]

/-- A scheme is taken off a text. -/
theorem splitScheme_append {scheme : List Char} (hcolon : ':' ∉ scheme)
    (hhead : (scheme.head?.map Char.isAlpha).getD false = true)
    (hall : scheme.all isSchemeChar = true) (rest : List Char) :
    splitScheme (scheme ++ ':' :: rest) = (scheme.map Char.toLower, rest) := by
  have hcontains : (scheme ++ ':' :: rest).contains ':' = true := by
    simp
  simp only [splitScheme, before_append hcolon, after_append hcolon, hcontains, hhead, hall,
    Bool.and_self, if_true]

/-- An authority is taken off a text whose path starts with a slash. -/
theorem splitAuthority_append {authority : List Char}
    (hauthority : ∀ c ∈ authority, endsAuthority c = false) (rest : List Char) :
    splitAuthority ('/' :: '/' :: (authority ++ '/' :: rest)) = (authority, '/' :: rest) := by
  have hplain : ∀ c ∈ authority, (!endsAuthority c) = true := by
    intro c hc
    rw [hauthority c hc]
    rfl
  rw [splitAuthority, List.takeWhile_append_of_pos hplain, List.dropWhile_append_of_pos hplain,
    List.takeWhile_cons_of_neg (by decide), List.dropWhile_cons_of_neg (by decide),
    List.append_nil]

end Uri

namespace Endpoint

/-! ## The characters of an authority -/

/-- The characters that hosts and ports are written with. -/
def isAuthorityChar (c : Char) : Bool :=
  Hexadecimal.isDigit c || c == ':' || c == '.' || c == '%' || c == '-' || c == '[' || c == ']'

/-- An address as the host of a URI, without brackets. -/
def hostText (address : Ip.Address) (ifindex : Int) : List Char :=
  match address with
  | .v4 octets => octets.chars
  | .v6 groups _ =>
    if groups.isLinkLocal then groups.chars ++ '%' :: '2' :: '5' :: (toString ifindex).toList
    else groups.chars

/-- Host and port as they stand in a URI. -/
def authority (address : Ip.Address) (port ifindex : Int) : List Char :=
  (formatHost address ifindex).toList ++ ':' :: (toString port).toList

theorem toList_formatHost (address : Ip.Address) (ifindex : Int) :
    (formatHost address ifindex).toList =
      match address with
      | .v4 _ => hostText address ifindex
      | .v6 .. => '[' :: (hostText address ifindex ++ [']']) := by
  cases address with
  | v4 octets => simp [formatHost, hostText, Ip.Address.bareText]
  | v6 groups scope =>
      by_cases hlocal : groups.isLinkLocal = true
      · simp [formatHost, hostText, Ip.Address.bareText, Ip.Address.isLinkLocal, hlocal]
      · simp [formatHost, hostText, Ip.Address.bareText, Ip.Address.isLinkLocal, hlocal]

/-- A number that is not negative is written with its decimal digits, -/
theorem toList_toString_natCast (n : Nat) :
    (toString (n : Int)).toList = Nat.toDigits 10 n := by
  rw [Int.toString_eq_repr, Int.repr_eq_if, if_pos (by omega), Int.toNat_natCast, Nat.toList_repr]

/-- and a negative one with a minus sign in front. -/
theorem toList_toString_of_neg {n : Int} (hn : n < 0) :
    (toString n).toList = '-' :: Nat.toDigits 10 (-n).toNat := by
  rw [Int.toString_eq_repr, Int.repr_eq_if, if_neg (by omega), String.toList_append,
    Nat.toList_repr]
  rfl

/-- An integer is written in digits and a sign. -/
theorem mem_toString_int {n : Int} {c : Char} (hc : c ∈ (toString n).toList) :
    c.isDigit = true ∨ c = '-' := by
  by_cases hneg : n < 0
  · rw [toList_toString_of_neg hneg] at hc
    rcases List.mem_cons.1 hc with hminus | hc
    · exact .inr hminus
    · exact .inl (Nat.isDigit_of_mem_toDigits (by decide) (by decide) hc)
  · obtain ⟨k, rfl⟩ := Int.eq_ofNat_of_zero_le (Int.not_lt.1 hneg)
    rw [toList_toString_natCast] at hc
    exact .inl (Nat.isDigit_of_mem_toDigits (by decide) (by decide) hc)

theorem isAuthorityChar_of_isDigit {c : Char} (h : c.isDigit = true) :
    isAuthorityChar c = true := by
  simp [isAuthorityChar, Hexadecimal.isDigit_of_isDigit h]

theorem isAuthorityChar_toString {n : Int} {c : Char} (hc : c ∈ (toString n).toList) :
    isAuthorityChar c = true := by
  rcases mem_toString_int hc with hdigit | rfl
  · exact isAuthorityChar_of_isDigit hdigit
  · decide

/-- A host is written with characters of an authority other than brackets. -/
theorem mem_hostText {address : Ip.Address} {ifindex : Int} {c : Char}
    (hc : c ∈ hostText address ifindex) : isAuthorityChar c = true ∧ c ≠ '[' ∧ c ≠ ']' := by
  have hdigit (h : c.isDigit = true) : isAuthorityChar c = true ∧ c ≠ '[' ∧ c ≠ ']' := by
    refine ⟨isAuthorityChar_of_isDigit h, ?_, ?_⟩
    · rintro rfl
      simp at h
    · rintro rfl
      simp at h
  have hhex (h : Hexadecimal.isDigit c = true) :
      isAuthorityChar c = true ∧ c ≠ '[' ∧ c ≠ ']' := by
    refine ⟨by simp [isAuthorityChar, h], ?_, ?_⟩
    · rintro rfl
      exact absurd h (by decide)
    · rintro rfl
      exact absurd h (by decide)
  have hgroups {groups : Ip.V6} (h : c ∈ groups.chars) :
      isAuthorityChar c = true ∧ c ≠ '[' ∧ c ≠ ']' := by
    rcases Ip.mem_chars_v6 h with h | rfl
    · exact hhex h
    · decide
  cases address with
  | v4 octets =>
      rcases Ip.mem_chars_v4 hc with h | rfl
      · exact hdigit h
      · decide
  | v6 groups scope =>
      simp only [hostText] at hc
      split at hc
      · simp only [List.mem_append, List.mem_cons] at hc
        rcases hc with h | rfl | rfl | rfl | h
        · exact hgroups h
        · decide
        · decide
        · decide
        · rcases mem_toString_int h with h | rfl
          · exact hdigit h
          · decide
      · exact hgroups hc

/-- An authority is written with its characters. -/
theorem isAuthorityChar_of_mem {address : Ip.Address} {port ifindex : Int} {c : Char}
    (hc : c ∈ authority address port ifindex) : isAuthorityChar c = true := by
  rw [authority, List.mem_append, List.mem_cons, toList_formatHost] at hc
  rcases hc with hc | rfl | hc
  · cases address with
    | v4 octets => exact (mem_hostText hc).1
    | v6 groups scope =>
        simp only [List.mem_cons, List.mem_append, List.not_mem_nil, or_false] at hc
        rcases hc with rfl | hc | rfl
        · decide
        · exact (mem_hostText hc).1
        · decide
  · decide
  · exact isAuthorityChar_toString hc

/-- A character that does not belong in an authority does not occur in one. -/
theorem notMem_authority {address : Ip.Address} {port ifindex : Int} {c : Char}
    (h : isAuthorityChar c = false) : c ∉ authority address port ifindex := by
  intro hc
  rw [isAuthorityChar_of_mem hc] at h
  simp at h

/-! ## Host and port -/

theorem authority_v4 (octets : Ip.V4) (port ifindex : Int) :
    authority (.v4 octets) port ifindex =
      hostText (.v4 octets) ifindex ++ ':' :: (toString port).toList := by
  rw [authority, toList_formatHost]

theorem authority_v6 (groups : Ip.V6) (scope : Option String) (port ifindex : Int) :
    authority (.v6 groups scope) port ifindex =
      '[' :: (hostText (.v6 groups scope) ifindex ++ ']' :: ':' :: (toString port).toList) := by
  rw [authority, toList_formatHost]
  simp

/-- A dotted address is written without brackets. -/
theorem contains_authority_v4 {c : Char} (hc : c = '[' ∨ c = ']') (octets : Ip.V4)
    (port ifindex : Int) : (authority (.v4 octets) port ifindex).contains c = false := by
  have hport : c ∉ (toString port).toList := by
    intro hmem
    rcases mem_toString_int hmem with h | h
    · rcases hc with rfl | rfl <;> simp at h
    · rcases hc with rfl | rfl <;> simp at h
  have hhost : c ∉ hostText (.v4 octets) ifindex := by
    intro hmem
    obtain ⟨-, hopen, hclose⟩ := mem_hostText hmem
    exact hc.elim hopen hclose
  rw [authority_v4, List.contains_eq_mem, decide_eq_false_iff_not, List.mem_append, List.mem_cons,
    not_or, not_or]
  exact ⟨hhost, by rcases hc with rfl | rfl <;> decide, hport⟩

/-- There are no user names in an authority. -/
theorem afterLast_authority (address : Ip.Address) (port ifindex : Int) :
    Uri.afterLast '@' (authority address port ifindex) = authority address port ifindex :=
  Uri.afterLast_of_notMem (notMem_authority (by decide))

theorem after_open (rest : List Char) : Uri.after '[' ('[' :: rest) = rest :=
  rfl

theorem after_colon (rest : List Char) : Uri.after ':' (':' :: rest) = rest :=
  rfl

theorem close_notMem_hostText (address : Ip.Address) (ifindex : Int) :
    ']' ∉ hostText address ifindex :=
  fun hc => (mem_hostText hc).2.2 rfl

/-- Host and port are read back from an authority. -/
theorem hostAndPort_authority (address : Ip.Address) (port ifindex : Int) :
    Uri.hostAndPort (authority address port ifindex) =
      (hostText address ifindex, (toString port).toList) := by
  simp only [Uri.hostAndPort, afterLast_authority]
  cases address with
  | v4 octets =>
      have hcolon : ':' ∉ hostText (.v4 octets) ifindex := by
        intro hc
        rcases Ip.mem_chars_v4 hc with h | h
        · simp at h
        · simp at h
      rw [contains_authority_v4 (.inl rfl), if_neg (by simp), authority_v4,
        Uri.before_append hcolon, Uri.after_append hcolon]
  | v6 groups scope =>
      have hclose := close_notMem_hostText (.v6 groups scope) ifindex
      rw [authority_v6, if_pos (by simp), after_open, Uri.before_append hclose,
        Uri.after_append hclose, after_colon]

/-! ## The checks of an authority -/

/-- The host of an address with colons may stand in brackets. -/
theorem isBracketable_hostText (groups : Ip.V6) (scope : Option String) (ifindex : Int) :
    Uri.isBracketable (hostText (.v6 groups scope) ifindex) = true := by
  have hhead : (hostText (.v6 groups scope) ifindex).head? ≠ some 'v' := by
    intro hv
    have hplain := (mem_hostText (List.mem_of_head? hv)).1
    exact absurd hplain (by decide)
  rw [Uri.isBracketable, if_neg hhead]
  by_cases hlocal : groups.isLinkLocal = true
  · have htext : hostText (.v6 groups scope) ifindex =
        groups.chars ++ '%' :: ('2' :: '5' :: (toString ifindex).toList) := if_pos hlocal
    have hzone {c : Char} (hdigit : c.isDigit = false) (hminus : c ≠ '-') :
        c ∉ '2' :: '5' :: (toString ifindex).toList := by
      simp only [List.mem_cons, not_or]
      refine ⟨?_, ?_, ?_⟩
      · rintro rfl
        simp at hdigit
      · rintro rfl
        simp at hdigit
      · intro hc
        rcases mem_toString_int hc with h | h
        · simp [h] at hdigit
        · exact hminus h
    rw [htext, Ip.readAddress?_zone groups (by simp) (hzone (by decide) (by decide))
      (hzone (by decide) (by decide))]
  · have htext : hostText (.v6 groups scope) ifindex = groups.chars := if_neg hlocal
    rw [htext, Ip.readAddress?_chars_v6]

/-- The brackets of an authority are in order. -/
theorem checkBrackets_authority (address : Ip.Address) (port ifindex : Int) :
    Uri.checkBrackets (authority address port ifindex) = .ok () := by
  cases address with
  | v4 octets =>
      rw [Uri.checkBrackets, contains_authority_v4 (.inl rfl), contains_authority_v4 (.inr rfl)]
      rfl
  | v6 groups scope =>
      have hopen : (authority (.v6 groups scope) port ifindex).contains '[' = true := by
        rw [authority_v6]
        simp
      have hclose : (authority (.v6 groups scope) port ifindex).contains ']' = true := by
        rw [authority_v6]
        simp
      have htail : Uri.after ']' (Uri.after '[' (authority (.v6 groups scope) port ifindex)) =
          ':' :: (toString port).toList := by
        rw [authority_v6, after_open, Uri.after_append (close_notMem_hostText _ _)]
      have hhead : (authority (.v6 groups scope) port ifindex).head? = some '[' := by
        rw [authority_v6]
        rfl
      simp only [Uri.checkBrackets, afterLast_authority, hopen, hclose, htail, hhead,
        hostAndPort_authority, isBracketable_hostText]
      rfl

theorem toNat_lt_of_isAuthorityChar {c : Char} (h : isAuthorityChar c = true) :
    c.toNat < 128 := by
  simp only [isAuthorityChar, Bool.or_eq_true, beq_iff_eq] at h
  rcases h with (((((h | rfl) | rfl) | rfl) | rfl) | rfl) | rfl
  · exact Hexadecimal.toNat_lt_of_isDigit h
  all_goals decide

/-- No character of an authority is confusable. -/
theorem isConfusable_authority (address : Ip.Address) (port ifindex : Int) :
    (authority address port ifindex).any Uri.isConfusable = false := by
  rw [List.any_eq_false]
  intro c hc hconfusable
  have hlt := toNat_lt_of_isAuthorityChar (isAuthorityChar_of_mem hc)
  rw [Uri.isConfusable, List.contains_eq_mem, decide_eq_true_eq] at hconfusable
  have hall : ∀ n ∈ [0x2047, 0x2048, 0x2049, 0x2100, 0x2101, 0x2105, 0x2106, 0x2A74, 0xFE13, 0xFE16,
      0xFE55, 0xFE56, 0xFE5F, 0xFE6B, 0xFF03, 0xFF0F, 0xFF1A, 0xFF1F, 0xFF20], 128 ≤ n := by decide
  have hle := hall _ hconfusable
  omega

/-! ## The parts of a URI -/

/-- The path of a composed URI starts with a slash. -/
theorem exists_normalizePath (path : Option String) :
    ∃ rest, (normalizePath path).toList = '/' :: rest := by
  cases path with
  | none => exact ⟨_, rfl⟩
  | some path =>
      simp only [normalizePath]
      split
      · exact ⟨[], rfl⟩
      · rw [String.toList_append, String.toList_append]
        exact ⟨_, rfl⟩

/-- Whether a character is kept when a URI is read: all are but tabs and line ends. -/
def isKept (c : Char) : Bool :=
  c != '\t' && c != '\r' && c != '\n'

/-- The path, the query and the fragment of a composed URI, as they are read. -/
def pathText (path : Option String) : List Char :=
  (normalizePath path).toList.filter isKept

/-- A composed URI. -/
theorem toList_compose (scheme : String) (address : Ip.Address) (port : Int)
    (path : Option String) (ifindex : Int) :
    (compose scheme address port path ifindex).toList =
      scheme.toList ++ ':' :: '/' :: '/' ::
        (authority address port ifindex ++ (normalizePath path).toList) := by
  have hmarks : "://".toList = [':', '/', '/'] := rfl
  have hcolon : ":".toList = [':'] := rfl
  simp only [compose, String.toList_append, hmarks, hcolon, authority, List.append_assoc,
    List.cons_append, List.nil_append]

/-- The schemes of scan services. -/
theorem scheme_cases {service : Service} {scheme : String} (h : service.scheme? = some scheme) :
    scheme = "http" ∨ scheme = "https" := by
  cases service <;> simp_all [Service.scheme?]

/-- What is read of a path starts with a slash. -/
theorem exists_pathText (path : Option String) : ∃ rest, pathText path = '/' :: rest := by
  obtain ⟨rest, hrest⟩ := exists_normalizePath path
  refine ⟨rest.filter isKept, ?_⟩
  rw [pathText, hrest, List.filter_cons_of_pos (by decide)]

/-- A composed URI is read as it stands, but for what its path is rid of. -/
theorem clean_compose {service : Service} {scheme : String}
    (hscheme : service.scheme? = some scheme) (address : Ip.Address) (port : Int)
    (path : Option String) (ifindex : Int) :
    Uri.clean (compose scheme address port path ifindex).toList =
      scheme.toList ++ ':' :: '/' :: '/' :: (authority address port ifindex ++ pathText path) := by
  have hauthority : (authority address port ifindex).filter isKept =
      authority address port ifindex := by
    rw [List.filter_eq_self]
    intro c hc
    have hne {d : Char} (hd : isAuthorityChar d = false) : c ≠ d :=
      fun heq => notMem_authority hd (heq ▸ hc)
    simp only [isKept, Bool.and_eq_true, bne_iff_ne]
    exact ⟨⟨hne (by decide), hne (by decide)⟩, hne (by decide)⟩
  have hkept (rest : List Char) : (scheme.toList ++ ':' :: '/' :: '/' :: rest).filter isKept =
      scheme.toList ++ ':' :: '/' :: '/' :: rest.filter isKept := by
    rcases scheme_cases hscheme with rfl | rfl <;> rfl
  have hstart (rest : List Char) :
      (scheme.toList ++ rest).dropWhile (fun c => decide (c.toNat ≤ 0x20)) =
        scheme.toList ++ rest := by
    rcases scheme_cases hscheme with rfl | rfl <;> rfl
  rw [toList_compose, Uri.clean, hstart]
  change (scheme.toList ++ ':' :: '/' :: '/' :: (authority address port ifindex ++
    (normalizePath path).toList)).filter isKept = _
  rw [hkept, List.filter_append, hauthority]
  rfl

/-- The parts of a composed URI. -/
theorem split_compose {service : Service} {scheme : String}
    (hscheme : service.scheme? = some scheme) (address : Ip.Address) (port : Int) (path : Option String) (ifindex : Int) :
    Uri.split (compose scheme address port path ifindex).toList = .ok {
      scheme := scheme.toList
      authority := authority address port ifindex
      path := Uri.before '?' (Uri.before '#' (pathText path))
      query := Uri.after '?' (Uri.before '#' (pathText path))
      fragment := Uri.after '#' (pathText path) } := by
  have hsplit (rest : List Char) : Uri.splitScheme (scheme.toList ++ ':' :: rest) =
      (scheme.toList, rest) := by
    rcases scheme_cases hscheme with rfl | rfl
    · exact Uri.splitScheme_append (by decide) rfl rfl rest
    · exact Uri.splitScheme_append (by decide) rfl rfl rest
  have hauthority : Uri.splitAuthority
      ('/' :: '/' :: (authority address port ifindex ++ pathText path)) =
        (authority address port ifindex, pathText path) := by
    obtain ⟨rest, hrest⟩ := exists_pathText path
    rw [hrest]
    apply Uri.splitAuthority_append
    intro c hc
    have hne {d : Char} (hd : isAuthorityChar d = false) : c ≠ d :=
      fun heq => notMem_authority hd (heq ▸ hc)
    simp only [Uri.endsAuthority, Bool.or_eq_false_iff, beq_eq_false_iff_ne]
    exact ⟨⟨hne (by decide), hne (by decide)⟩, hne (by decide)⟩
  rw [Uri.split, clean_compose hscheme, hsplit]
  simp only [hauthority, checkBrackets_authority, isConfusable_authority]
  rfl

/-! ## Endpoints that can be made -/

/-- The port of a composed authority, if there is such a port. -/
theorem port?_natCast {uri : Uri} {address : Ip.Address} {n : Nat} {ifindex : Int}
    (h : uri.authority = authority address n ifindex) :
    uri.port? = if 65535 < n then .error .port else .ok (some n) := by
  have hempty : (Nat.toDigits 10 n).isEmpty = false :=
    List.isEmpty_eq_false_iff.2 Nat.toDigits_ne_nil
  simp only [Uri.port?, h, hostAndPort_authority, toList_toString_natCast, hempty,
    all_isDigit_toDigits, decimalValue_toDigits, Bool.not_true, Bool.false_eq_true, if_false]

/-- A negative port is refused. -/
theorem port?_of_neg {uri : Uri} {address : Ip.Address} {port ifindex : Int} (hneg : port < 0)
    (h : uri.authority = authority address port ifindex) : uri.port? = .error .port := by
  simp only [Uri.port?, h, hostAndPort_authority, toList_toString_of_neg hneg]
  rfl

/-- A composed authority has a host. -/
theorem host?_authority {uri : Uri} {address : Ip.Address} {port ifindex : Int}
    (h : uri.authority = authority address port ifindex) : uri.host?.isSome = true := by
  have hnonempty : hostText address ifindex ≠ [] := by
    cases address with
    | v4 octets =>
        intro hnil
        have hsplit := Ip.splitOn_chars octets
        have hchars : octets.chars = [] := hnil
        simp [hchars] at hsplit
    | v6 groups scope =>
        have hgroups : groups.chars ≠ [] :=
          List.ne_nil_of_mem (Ip.colon_mem_of_readV6 (Ip.readV6_chars groups))
        unfold hostText
        simp only
        split
        · simp
        · exact hgroups
  simp only [Uri.host?, h, hostAndPort_authority]
  rw [if_neg (by simpa using hnonempty)]
  rfl

/-- A composed URI names host and port exactly if the port exists. -/
theorem namesHostAndPort_compose {service : Service} {scheme : String}
    (hscheme : service.scheme? = some scheme) (address : Ip.Address) (port : Int)
    (path : Option String) (ifindex : Int) :
    namesHostAndPort (compose scheme address port path ifindex) = true ↔
      0 ≤ port ∧ port ≤ 65535 := by
  simp only [namesHostAndPort, split_compose hscheme]
  rw [host?_authority rfl, Bool.true_and]
  by_cases hneg : port < 0
  · rw [port?_of_neg hneg rfl]
    simp only [Bool.false_eq_true, false_iff]
    omega
  · obtain ⟨n, rfl⟩ := Int.eq_ofNat_of_zero_le (Int.not_lt.1 hneg)
    rw [port?_natCast rfl]
    by_cases hrange : 65535 < n
    · rw [if_pos hrange]
      simp only [Bool.false_eq_true, false_iff]
      omega
    · rw [if_neg hrange]
      simp only [true_iff]
      omega

/-- The endpoint of a scan service can be made for every port that exists, whatever the address,
the interface and the announced path. -/
theorem make_of_port {service : Service} (hscan : service.isScan = true) (address : Ip.Address)
    {port : Int} (hport : 0 ≤ port ∧ port ≤ 65535) (path : Option String) (ifindex : Int) :
    ∃ scheme, service.scheme? = some scheme ∧ make service address port path ifindex =
      .ok ⟨.escl, compose scheme address port path ifindex⟩ := by
  obtain ⟨scheme, hscheme⟩ := Option.isSome_iff_exists.1 hscan
  refine ⟨scheme, hscheme, ?_⟩
  simp only [make, hscheme]
  rw [if_pos ((namesHostAndPort_compose hscheme address port path ifindex).2 hport)]

end Endpoint

end ScannerDiscovery
