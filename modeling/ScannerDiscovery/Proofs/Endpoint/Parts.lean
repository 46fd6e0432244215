import ScannerDiscovery.Proofs.Endpoint.Host

/-!
# The parts of an endpoint

The endpoint of a resolved service can be made exactly if the service is a scan service and the port
exists.  Then its URI is valid, and tells what it has been made of: scheme, port, address, the
interface as the zone of a link-local IPv6 address, and the path.  What the endpoint is ordered by,
which is read from that text, is the class of the address.

Main definitions:

- `zone?` : the zone of a host.
- `IsPlain` : announced paths that are read as they are written.
- `Tells` : what the parts of a URI tell of the service that it has been made for.

Main results:

- `normalizePath_normalizePath` : paths are normalized once and for all.
- `make_eq_ok_iff` : the endpoints that can be made.
- `made_and_read_back` : endpoints are valid and can be read back.
-/

namespace ScannerDiscovery

/-! ## Texts without their ends -/

namespace Text

variable {p : Char → Bool} {c : Char} {text : List Char}

theorem mem_of_mem_trim (hc : c ∈ trim p text) : c ∈ text := by
  rw [trim, trimEnd, List.mem_reverse] at hc
  have kept := (List.dropWhile_sublist p).subset hc
  exact (List.dropWhile_sublist p).subset (List.mem_reverse.1 kept)

/-- What is left of a text starts with a character of another class, -/
theorem head?_trim (hc : (trim p text).head? = some c) : p c = false := by
  have first := List.head?_dropWhile_not p text
  obtain ⟨rest, hrest⟩ : ∃ rest, text.dropWhile p = trim p text ++ rest := by
    obtain ⟨rest, hrest⟩ := List.dropWhile_suffix p (l := (text.dropWhile p).reverse)
    refine ⟨rest.reverse, ?_⟩
    rw [trim, trimEnd, ← List.reverse_append, hrest, List.reverse_reverse]
  rw [hrest, List.head?_append, hc] at first
  exact first

/-- and ends with one. -/
theorem getLast?_trim (hc : (trim p text).getLast? = some c) : p c = false := by
  have last := List.head?_dropWhile_not p (text.dropWhile p).reverse
  rw [trim, trimEnd, List.getLast?_reverse] at hc
  rw [hc] at last
  exact last

/-- What is left of a text is all that is left when it is put between characters of the class. -/
theorem trim_surround (hc : p c = true) :
    trim p (c :: (trim p text ++ [c])) = trim p text := by
  cases htrim : trim p text with
  | nil => simp [trim, trimEnd, hc]
  | cons first rest =>
      have hfirst : p first = false := head?_trim (by rw [htrim]; rfl)
      obtain ⟨last, hlast⟩ : ∃ last, (first :: rest).getLast? = some last :=
        ⟨_, List.getLast?_eq_some_getLast (by simp)⟩
      have hplain : p last = false := getLast?_trim (htrim ▸ hlast)
      obtain ⟨front, hfront⟩ := List.getLast?_eq_some_iff.1 hlast
      rw [trim, List.dropWhile_cons_of_pos hc, List.cons_append,
        List.dropWhile_cons_of_neg (by simp [hfirst]), ← List.cons_append, hfront, trimEnd]
      simp [hc, hplain]

end Text

namespace Endpoint

/-! ## Paths -/

/-- A path starts and ends with a slash. -/
theorem normalizePath_ends (path : Option String) :
    (normalizePath path).toList.head? = some '/' ∧
    (normalizePath path).toList.getLast? = some '/' := by
  cases path with
  | none => exact ⟨rfl, rfl⟩
  | some path =>
      simp only [normalizePath]
      split
      · exact ⟨rfl, rfl⟩
      · have first : ("/" : String).toList = ['/'] := rfl
        simp only [String.toList_append, first]
        exact ⟨by simp, List.getLast?_concat⟩

/-- A path that is normalized is left as it is. -/
theorem normalizePath_normalizePath (path : Option String) :
    normalizePath (some (normalizePath path)) = normalizePath path := by
  cases path with
  | none => decide +kernel
  | some path =>
      cases htrim : Text.trim (· == '/') path.toList with
      | nil =>
          have root : normalizePath (some path) = "/" := by simp [normalizePath, htrim]
          rw [root]
          decide +kernel
      | cons first rest =>
          have wrapped : (normalizePath (some path)).toList =
              '/' :: (Text.trim (· == '/') path.toList ++ ['/']) := by
            simp [normalizePath, htrim, String.toList_append]
          have trimmed : Text.trim (· == '/') (normalizePath (some path)).toList =
              Text.trim (· == '/') path.toList := by
            rw [wrapped]
            exact Text.trim_surround rfl
          rw [normalizePath, trimmed, ← normalizePath]

/-- Whether an announced path is read as it is written: it has neither a query nor a fragment, and
neither tabs nor line ends. -/
def IsPlain (path : Option String) : Prop :=
  ∀ text ∈ path, ∀ c ∈ text.toList, c ∉ ['?', '#', '\t', '\r', '\n']

/-- The characters of a path are slashes and those that have been announced. -/
theorem notMem_normalizePath {path : Option String} (plain : IsPlain path) {c : Char}
    (hc : c ∈ (normalizePath path).toList) : c ∉ ['?', '#', '\t', '\r', '\n'] := by
  have slash : '/' ∉ ['?', '#', '\t', '\r', '\n'] := by decide
  cases path with
  | none =>
      have all : defaultPath.toList.all (· ∉ ['?', '#', '\t', '\r', '\n']) = true := by decide
      exact of_decide_eq_true (List.all_eq_true.1 all c hc)
  | some text =>
      simp only [normalizePath] at hc
      split at hc
      · rw [List.mem_singleton.1 hc]
        exact slash
      · simp only [String.toList_append, String.toList_ofList, List.mem_append] at hc
        rcases hc with (hc | hc) | hc
        · rw [List.mem_singleton.1 hc]
          exact slash
        · exact plain text rfl c (Text.mem_of_mem_trim hc)
        · rw [List.mem_singleton.1 hc]
          exact slash

/-- So a plain path is the whole of what follows the authority. -/
theorem before_pathText {path : Option String} (plain : IsPlain path) :
    Uri.before '?' (Uri.before '#' (pathText path)) = (normalizePath path).toList := by
  have others {c : Char} (hc : c ∈ (normalizePath path).toList) :
      c ≠ '?' ∧ c ≠ '#' ∧ c ≠ '\t' ∧ c ≠ '\r' ∧ c ≠ '\n' := by
    simpa using notMem_normalizePath plain hc
  have kept : pathText path = (normalizePath path).toList := by
    rw [pathText, List.filter_eq_self]
    intro c hc
    obtain ⟨-, -, tab, feed, line⟩ := others hc
    simp [isKept, tab, feed, line]
  have fragment : Uri.before '#' (normalizePath path).toList = (normalizePath path).toList :=
    List.takeWhile_eq_self_iff.2 fun c hc => by simpa using (others hc).2.1
  have query : Uri.before '?' (normalizePath path).toList = (normalizePath path).toList :=
    List.takeWhile_eq_self_iff.2 fun c hc => by simpa using (others hc).1
  rw [kept, fragment, query]

/-! ## Zones -/

/-- The zone of a host: what follows its first percent sign. -/
def zone? (host : List Char) : Option (List Char) :=
  if '%' ∈ host then some (Uri.after '%' host) else none

/-- The zone of a composed host is the interface of a link-local IPv6 address. -/
theorem zone?_hostText (address : Ip.Address) (ifindex : Int) :
    zone? (hostText address ifindex) =
      if address.family = .ipv6 ∧ address.isLinkLocal = true then
        some ("25" ++ toString ifindex).toList
      else none := by
  cases address with
  | v4 octets =>
      have none : '%' ∉ hostText (.v4 octets) ifindex := Ip.percent_notMem_chars_v4
      rw [zone?, if_neg none, if_neg (by simp [Ip.Address.family])]
  | v6 groups scope =>
      have bare : '%' ∉ groups.chars := Ip.notMem_chars_v6 (by decide) (by decide)
      by_cases hlocal : groups.isLinkLocal = true
      · have text : hostText (.v6 groups scope) ifindex =
            groups.chars ++ '%' :: '2' :: '5' :: (toString ifindex).toList := if_pos hlocal
        have local6 : (Ip.Address.v6 groups scope).family = .ipv6 ∧
            (Ip.Address.v6 groups scope).isLinkLocal = true := ⟨rfl, hlocal⟩
        rw [zone?, text, if_pos (by simp), if_pos local6, Uri.after_append bare,
          String.toList_append]
        rfl
      · have text : hostText (.v6 groups scope) ifindex = groups.chars := if_neg hlocal
        have other : ¬((Ip.Address.v6 groups scope).family = .ipv6 ∧
            (Ip.Address.v6 groups scope).isLinkLocal = true) := fun local6 => hlocal local6.2
        rw [zone?, text, if_neg bare, if_neg other]

/-! ## Endpoints that are made -/

variable (service : Service) (address : Ip.Address) (port : Int) (path : Option String)
  (ifindex : Int)

/-- What the parts of a URI and its host tell of the service that it has been made for. -/
structure Tells (uri : Uri) (host : List Char) : Prop where
  scheme_eq : service.scheme? = some (String.ofList uri.scheme)
  port_eq : ∃ n : Nat, uri.port? = .ok (some n) ∧ port = n
  host_eq : uri.host? = some host
  address_eq : Ip.readAddress? (Uri.before '%' host) = some address.unscoped
  zone_eq : zone? host =
    if address.family = .ipv6 ∧ address.isLinkLocal = true then
      some ("25" ++ toString ifindex).toList
    else none
  path_eq : IsPlain path → String.ofList uri.path = normalizePath path

/-- The endpoints that can be made: those of scan services, at a port that exists. -/
theorem make_eq_ok_iff (e : Endpoint) :
    make service address port path ifindex = .ok e ↔
      (0 ≤ port ∧ port ≤ 65535) ∧ ∃ scheme, service.scheme? = some scheme ∧
        e = ⟨.escl, compose scheme address port path ifindex⟩ := by
  cases hscheme : service.scheme? with
  | none => simp [make, hscheme]
  | some scheme =>
      have valid := namesHostAndPort_compose hscheme address port path ifindex
      simp only [make, hscheme]
      split
      · rename_i names
        simp [valid.1 names, eq_comm]
      · rename_i nameless
        have refused : ¬(0 ≤ port ∧ port ≤ 65535) := mt valid.2 nameless
        simp [refused]

/-- What is read of the address that an endpoint has been made of is what it is ordered by. -/
theorem sortKey_compose {scheme : String} (hscheme : service.scheme? = some scheme)
    (proto : Proto) :
    sortKey ⟨proto, compose scheme address port path ifindex⟩ =
      ⟨address.isLinkLocal, address.family = .ipv4, compose scheme address port path ifindex⟩ := by
  simp only [sortKey, address?_compose hscheme address port path ifindex]
  cases address with
  | v4 octets => rfl
  | v6 groups scope => rfl

variable {service address port path ifindex} in
/-- The parts of a URI that has been made. -/
theorem exists_tells {scheme : String} (hscheme : service.scheme? = some scheme)
    (hport : 0 ≤ port ∧ port ≤ 65535) :
    ∃ uri host, Uri.split (compose scheme address port path ifindex).toList = .ok uri ∧
      Tells service address port path ifindex uri host := by
  obtain ⟨n, rfl⟩ := Int.eq_ofNat_of_zero_le hport.1
  have small : ¬65535 < n := by omega
  obtain ⟨uri, hsplit, -, hhost⟩ := host?_compose hscheme address n path ifindex
  have parts := split_compose hscheme address n path ifindex
  have read := address?_compose hscheme address n path ifindex
  simp only [address?, hsplit, hhost, Option.getD_some] at read
  obtain rfl := Except.ok.inj (hsplit.symm.trans parts)
  exact ⟨_, hostText address ifindex, parts, {
    scheme_eq := by rw [hscheme, String.ofList_toList]
    port_eq := ⟨n, by rw [port?_natCast rfl, if_neg small], rfl⟩
    host_eq := hhost
    address_eq := read
    zone_eq := zone?_hostText address ifindex
    path_eq := fun plain => by simp only [before_pathText plain, String.ofList_toList] }⟩

/-- An endpoint can be made exactly if the service is a scan service and the port exists.  Its URI
is valid, and its parts tell what it has been made of; it is ordered by the class of its address and
by its text.  Paths have a slash at either end, and are normalized once and for all. -/
theorem made_and_read_back :
    ((∃ e, make service address port path ifindex = .ok e) ↔
      service.isScan = true ∧ 0 ≤ port ∧ port ≤ 65535) ∧
    (∀ e, make service address port path ifindex = .ok e →
      e.proto = .escl ∧
      (∃ uri host, Uri.split e.uri.toList = .ok uri ∧
        Tells service address port path ifindex uri host) ∧
      e.sortKey = ⟨address.isLinkLocal, address.family = .ipv4, e.uri⟩) ∧
    ((normalizePath path).toList.head? = some '/' ∧
      (normalizePath path).toList.getLast? = some '/') ∧
    normalizePath (some (normalizePath path)) = normalizePath path := by
  refine ⟨?_, ?_, normalizePath_ends path, normalizePath_normalizePath path⟩
  · simp only [make_eq_ok_iff, Service.isScan, Option.isSome_iff_exists]
    constructor
    · rintro ⟨e, hport, scheme, hscheme, -⟩
      exact ⟨⟨scheme, hscheme⟩, hport⟩
    · rintro ⟨⟨scheme, hscheme⟩, hport⟩
      exact ⟨_, hport, scheme, hscheme, rfl⟩
  · intro e made
    obtain ⟨hport, scheme, hscheme, rfl⟩ := (make_eq_ok_iff _ _ _ _ _ e).1 made
    exact ⟨rfl, exists_tells hscheme hport, sortKey_compose _ _ _ _ _ hscheme .escl⟩

/-- A link-local address, with its interface as the zone. -/
example :
    (make .uscan (.v6 ⟨[0xFE80, 0, 0, 0, 0, 0, 0, 1], rfl⟩ (some "eth0")) 80 (some "eSCL") 3).map
      Endpoint.uri = .ok "http://[fe80::1%253]:80/eSCL/" := by
  decide +kernel

end Endpoint

end ScannerDiscovery
