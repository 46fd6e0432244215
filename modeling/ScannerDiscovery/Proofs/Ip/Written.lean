import Mathlib.Data.List.Basic
import Mathlib.Data.List.TakeWhile
import ScannerDiscovery.Proofs.Number.Digits

/-!
# Written addresses are read back

The written form of an address is read back as that address: a dotted one octet by octet, and one
with colons with the run of zero groups that has been left out.

Main results:

- `readV4_chars`, `readV6_chars` : one family.
- `readAddress?_chars_v4`, `readAddress?_chars_v6`, `readAddress?_zone` : an address of either
  family, and one with a zone.
- `mem_of_readV6` : the characters of an address.
-/

namespace ScannerDiscovery.Ip

/-! ## Reading step by step -/

section Steps

variable {ε α β : Type} {result : α}

/-- A test that was passed, and what came behind it. -/
theorem of_unless {p : Prop} [Decidable p] {cause : ε} {rest : Except ε α}
    (h : (if p then .error cause else rest) = .ok result) : ¬p ∧ rest = .ok result := by
  split at h
  · cases h
  · next hp => exact ⟨hp, h⟩

/-- What a first part was read as, and what came behind it. -/
theorem of_bind {first : Except ε β} {rest : β → Except ε α}
    (h : first >>= rest = .ok result) : ∃ x, first = .ok x ∧ rest x = .ok result := by
  cases first with
  | error cause => cases h
  | ok x => exact ⟨x, rfl, h⟩

theorem of_mapError {ε' : Type} {f : ε' → ε} {read : Except ε' α}
    (h : read.mapError f = .ok result) : read = .ok result := by
  cases read with
  | error cause => cases h
  | ok x => exact congrArg _ (Except.ok.inj h)

end Steps

/-! ## IPv4 -/

/-- An octet is read back. -/
theorem readOctet_toDigits (octet : UInt8) :
    readOctet (Nat.toDigits 10 octet.toNat) = .ok octet := by
  have hlt : octet.toNat < 256 := octet.toNat_lt
  have hlength : ¬3 < (Nat.toDigits 10 octet.toNat).length := by
    have := (Nat.length_toDigits_le_iff (n := octet.toNat) (k := 3) (b := 10) (by decide)
      (by decide)).2 (by omega)
    omega
  have hzero : ¬(Nat.toDigits 10 octet.toNat ≠ ['0'] ∧
      (Nat.toDigits 10 octet.toNat).head? = some '0') := by
    rintro ⟨hne, hhead⟩
    rcases Nat.eq_zero_or_pos octet.toNat with hz | hpos
    · exact hne (by rw [hz, Nat.toDigits_zero])
    · exact head?_toDigits (by decide) hpos (by decide) hhead
  simp only [readOctet, List.isEmpty_iff, Nat.toDigits_ne_nil, all_isDigit_toDigits, hlength,
    decimalValue_toDigits, Bool.not_true, Bool.false_eq_true, if_false, Bool.and_eq_true,
    decide_eq_true_eq, hzero]
  rw [if_neg (by omega), UInt8.ofNat_toNat]

/-- The octets of an address, each in its digits. -/
theorem splitOn_chars (x : V4) : x.chars.splitOn '.' =
    [Nat.toDigits 10 x.a.toNat, Nat.toDigits 10 x.b.toNat, Nat.toDigits 10 x.c.toNat,
      Nat.toDigits 10 x.d.toNat] := by
  rw [V4.chars, List.splitOn_intercalate]
  · rfl
  · intro part hpart hpoint
    obtain ⟨octet, -, rfl⟩ := List.mem_map.1 hpart
    have hdigit := Nat.isDigit_of_mem_toDigits (by decide) (by decide) hpoint
    simp at hdigit
  · simp

/-- The characters of parts with separators between them. -/
theorem mem_intercalate {separator c : Char} {parts : List (List Char)}
    (hc : c ∈ [separator].intercalate parts) : c = separator ∨ ∃ part ∈ parts, c ∈ part := by
  induction parts with
  | nil => simp at hc
  | cons part rest ih =>
      by_cases hrest : rest = []
      · subst hrest
        rw [List.intercalate_singleton] at hc
        exact .inr ⟨part, List.mem_cons_self, hc⟩
      · rw [List.intercalate_cons_of_ne_nil hrest, List.mem_append, List.mem_append,
          List.mem_singleton] at hc
        rcases hc with (hc | hc) | hc
        · exact .inr ⟨part, List.mem_cons_self, hc⟩
        · exact .inl hc
        · rcases ih hc with hsep | ⟨other, hother, hmem⟩
          · exact .inl hsep
          · exact .inr ⟨other, List.mem_cons_of_mem _ hother, hmem⟩

/-- The characters of a dotted address. -/
theorem mem_chars_v4 {x : V4} {c : Char} (hc : c ∈ x.chars) : c.isDigit = true ∨ c = '.' := by
  rcases mem_intercalate hc with hpoint | ⟨part, hpart, hmem⟩
  · exact .inr hpoint
  · obtain ⟨octet, -, rfl⟩ := List.mem_map.1 hpart
    exact .inl (Nat.isDigit_of_mem_toDigits (by decide) (by decide) hmem)

/-- A dotted address is read back. -/
theorem readV4_chars (x : V4) : readV4 x.chars = .ok x := by
  have hslash : x.chars.contains '/' = false := by
    rw [List.contains_eq_mem, decide_eq_false_iff_not]
    intro hmem
    rcases mem_chars_v4 hmem with hdigit | hpoint
    · simp at hdigit
    · simp at hpoint
  have hempty : x.chars.isEmpty = false := by
    rw [List.isEmpty_eq_false_iff]
    intro hnil
    have hsplit := splitOn_chars x
    simp [hnil] at hsplit
  simp only [readV4, hslash, hempty, Bool.false_eq_true, if_false, splitOn_chars,
    readOctet_toDigits]
  rfl

/-- What is read as an octet is digits. -/
theorem all_isDigit_of_readOctet {part : List Char} {octet : UInt8}
    (h : readOctet part = .ok octet) : part.all Char.isDigit = true := by
  simpa using (of_unless (of_unless h).2).1

/-- What is read as a dotted address is digits and points. -/
theorem isDigit_of_mem_of_readV4 {text : List Char} {x : V4} (h : readV4 text = .ok x) {c : Char}
    (hc : c ∈ text) : c.isDigit = true ∨ c = '.' := by
  unfold readV4 at h
  replace h := (of_unless (of_unless h).2).2
  split at h
  · next first second third fourth hsplit =>
      obtain ⟨a, ha, h⟩ := of_bind (of_mapError h)
      obtain ⟨b, hb, h⟩ := of_bind h
      obtain ⟨c', hc', h⟩ := of_bind h
      obtain ⟨d, hd, -⟩ := of_bind h
      have hparts : ∀ part ∈ [first, second, third, fourth], part.all Char.isDigit = true := by
        simp only [List.forall_mem_cons]
        exact ⟨all_isDigit_of_readOctet ha, all_isDigit_of_readOctet hb,
          all_isDigit_of_readOctet hc', all_isDigit_of_readOctet hd, by simp⟩
      rw [← hsplit] at hparts
      have hjoin : ['.'].intercalate (text.splitOn '.') = text := List.intercalate_splitOn '.'
      rw [← hjoin] at hc
      rcases mem_intercalate hc with hpoint | ⟨part, hpart, hmem⟩
      · exact .inr hpoint
      · exact .inl (List.all_eq_true.1 (hparts part hpart) c hmem)
  · cases h

/-- A text with a colon is no dotted address. -/
theorem readV4_of_colon {text : List Char} (hcolon : ':' ∈ text) :
    ∃ cause, readV4 text = .error cause := by
  cases h : readV4 text with
  | error cause => exact ⟨cause, rfl⟩
  | ok x =>
      rcases isDigit_of_mem_of_readV4 h hcolon with hdigit | hpoint
      · simp at hdigit
      · simp at hpoint

/-! ## Groups -/

theorem groupChars_ne_nil (group : UInt16) : groupChars group ≠ [] :=
  Nat.toDigits_ne_nil

theorem isDigit_of_mem_groupChars {group : UInt16} {c : Char} (hc : c ∈ groupChars group) :
    Hexadecimal.isDigit c = true :=
  List.all_eq_true.1 (Hexadecimal.all_isDigit_toDigits group.toNat) c hc

/-- A group is read back. -/
theorem readGroup_groupChars (group : UInt16) : readGroup (groupChars group) = .ok group := by
  have hlt : group.toNat < 65536 := group.toNat_lt
  have hlength : ¬4 < (groupChars group).length := by
    have := (Nat.length_toDigits_le_iff (n := group.toNat) (k := 4) (b := 16) (by decide)
      (by decide)).2 (by omega)
    rw [groupChars]
    omega
  have hdigits : (groupChars group).all Hexadecimal.isDigit = true :=
    Hexadecimal.all_isDigit_toDigits group.toNat
  have hnumber : Hexadecimal.number (groupChars group) = group.toNat :=
    Hexadecimal.number_toDigits group.toNat
  simp only [readGroup, hdigits, Bool.not_true, Bool.false_eq_true, if_false, hlength, hnumber,
    UInt16.ofNat_toNat]

theorem mapM_readGroup (groups : List UInt16) :
    (groups.map groupChars).mapM readGroup = .ok groups := by
  induction groups with
  | nil => rfl
  | cons group rest ih =>
      rw [List.map_cons, List.mapM_cons, readGroup_groupChars, ih]
      rfl

/-- Groups between colons are hexadecimal digits and colons. -/
theorem mem_joinGroups {groups : List UInt16} {c : Char} (hc : c ∈ joinGroups groups) :
    Hexadecimal.isDigit c = true ∨ c = ':' := by
  rcases mem_intercalate hc with hcolon | ⟨part, hpart, hmem⟩
  · exact .inr hcolon
  · obtain ⟨group, -, rfl⟩ := List.mem_map.1 hpart
    exact .inl (isDigit_of_mem_groupChars hmem)

/-- The parts between the colons of written groups: an empty one if there are no groups. -/
def partsOf (groups : List UInt16) : List (List Char) :=
  if groups = [] then [[]] else groups.map groupChars

theorem splitOn_joinGroups (groups : List UInt16) :
    (joinGroups groups).splitOn ':' = partsOf groups := by
  unfold joinGroups partsOf
  split
  · rename_i hnil
    subst hnil
    rfl
  · rename_i hgroups
    rw [List.splitOn_intercalate]
    · intro part hpart hcolon
      obtain ⟨group, -, rfl⟩ := List.mem_map.1 hpart
      have hdigit := isDigit_of_mem_groupChars hcolon
      exact absurd hdigit (by decide)
    · simpa using hgroups

/-- What may be written of an IPv6 address without its scope. -/
theorem mem_chars_v6 {x : V6} {c : Char} (hc : c ∈ x.chars) :
    Hexadecimal.isDigit c = true ∨ c = ':' := by
  unfold V6.chars at hc
  simp only at hc
  split at hc
  · simp only [List.mem_append, List.mem_cons] at hc
    rcases hc with hc | rfl | rfl | hc
    · exact mem_joinGroups hc
    · exact .inr rfl
    · exact .inr rfl
    · exact mem_joinGroups hc
  · exact mem_joinGroups hc

/-! ## The run of zero groups that is left out -/

/-- Whether a place and a length are those of a run of zero groups. -/
def IsZeroRun (groups : List UInt16) (start size : Nat) : Prop :=
  start + size ≤ groups.length ∧ (groups.drop start).take size = List.replicate size 0

/-- Zero groups at the start of the rest are a run. -/
theorem isZeroRun_leadingZeros {groups : List UInt16} {start : Nat}
    (hstart : start < groups.length) :
    IsZeroRun groups start (leadingZeros (groups.drop start)) := by
  have hrun := List.takeWhile_prefix (· == (0 : UInt16)) (l := groups.drop start)
  constructor
  · have hle := hrun.length_le
    rw [List.length_drop] at hle
    unfold leadingZeros
    omega
  · rw [leadingZeros, ← List.prefix_iff_eq_take.1 hrun, List.eq_replicate_iff]
    refine ⟨rfl, fun group hgroup => ?_⟩
    simpa using List.all_eq_true.1 List.all_takeWhile group hgroup

/-- What is left out is a run of zero groups. -/
theorem isZeroRun_bestRun (groups : List UInt16) :
    IsZeroRun groups (bestRun groups).1 (bestRun groups).2 := by
  have all : ∀ (starts : List Nat) (best : Nat × Nat), (∀ start ∈ starts, start < groups.length) →
      IsZeroRun groups best.1 best.2 →
      IsZeroRun groups
        (starts.foldl (fun best start =>
          let size := leadingZeros (groups.drop start)
          if best.2 < size then (start, size) else best) best).1
        (starts.foldl (fun best start =>
          let size := leadingZeros (groups.drop start)
          if best.2 < size then (start, size) else best) best).2 := by
    intro starts
    induction starts with
    | nil => exact fun best _ hbest => hbest
    | cons start rest ih =>
        intro best hstarts hbest
        simp only [List.foldl_cons]
        apply ih _ fun s hs => hstarts s (List.mem_cons_of_mem _ hs)
        split
        · exact isZeroRun_leadingZeros (hstarts start List.mem_cons_self)
        · exact hbest
  exact all _ _ (fun start hstart => List.mem_range.1 hstart) ⟨Nat.zero_le _, rfl⟩

/-- The groups around a run of zero groups, and that run. -/
theorem IsZeroRun.append {groups : List UInt16} {start size : Nat}
    (run : IsZeroRun groups start size) :
    groups.take start ++ List.replicate size 0 ++ groups.drop (start + size) = groups := by
  rw [← run.2, ← List.drop_drop, List.append_assoc, List.take_append_drop, List.take_append_drop]

/-! ## Laying out the parts -/

theorem partsOf_ne_nil (groups : List UInt16) : partsOf groups ≠ [] := by
  unfold partsOf
  split <;> simp_all

/-- Only without any groups is a part empty. -/
theorem nil_mem_partsOf_iff {groups : List UInt16} : [] ∈ partsOf groups ↔ groups = [] := by
  unfold partsOf
  split
  · simp_all
  · rename_i hgroups
    refine ⟨fun hmem => ?_, fun hnil => absurd hnil hgroups⟩
    obtain ⟨group, -, hchars⟩ := List.mem_map.1 hmem
    exact absurd hchars (groupChars_ne_nil group)

/-- The one empty part in between is the gap. -/
theorem innerGaps_append {before after : List (List Char)} (hbefore : before ≠ [])
    (hafter : after ≠ []) (first : [] ∉ before.drop 1) (last : [] ∉ after.dropLast) :
    innerGaps (before ++ [] :: after) = [before.length] := by
  have hlength : (before ++ [] :: after).length - 1 = before.length + after.length := by
    simp
  have hpos : 0 < before.length := List.length_pos_iff.2 hbefore
  have hpos' : 0 < after.length := List.length_pos_iff.2 hafter
  have hsame : ∀ i ∈ List.range (before.length + after.length),
      (decide (i ≠ 0) && decide ((before ++ [] :: after)[i]? = some [])) =
        (i == before.length) := by
    intro i hi
    rw [List.mem_range] at hi
    rw [Bool.eq_iff_iff, Bool.and_eq_true, decide_eq_true_eq, decide_eq_true_eq, beq_iff_eq]
    constructor
    · rintro ⟨hzero, hget⟩
      rcases Nat.lt_trichotomy i before.length with hlt | heq | hgt
      · rw [List.getElem?_append_left hlt] at hget
        refine absurd (List.mem_of_getElem? (i := i - 1) ?_) first
        rw [List.getElem?_drop, Nat.add_sub_cancel' (Nat.pos_of_ne_zero hzero)]
        exact hget
      · exact heq
      · obtain ⟨j, rfl⟩ := Nat.exists_eq_add_of_lt hgt
        rw [List.getElem?_append_right (by omega), Nat.add_assoc, Nat.add_sub_cancel_left,
          List.getElem?_cons_succ] at hget
        refine absurd (List.mem_of_getElem? (i := j) ?_) last
        rw [List.getElem?_dropLast, if_pos (by omega)]
        exact hget
    · rintro rfl
      exact ⟨by omega, by simp⟩
  rw [innerGaps, hlength, List.filter_congr hsame, List.filter_beq, List.count_range,
    if_pos (by omega), List.replicate_one]

theorem length_partsOf_le (groups : List UInt16) :
    (partsOf groups).length ≤ groups.length + 1 := by
  unfold partsOf
  split <;> simp_all

/-- An empty part at the start stands alone, and the others are the groups. -/
theorem head?_partsOf (groups : List UInt16) :
    ¬((partsOf groups).head? = some [] ∧ (partsOf groups).length ≠ 1) ∧
      (if (partsOf groups).head? = some [] then [] else partsOf groups) =
        groups.map groupChars := by
  by_cases hgroups : groups = []
  · subst hgroups
    exact ⟨by simp [partsOf], rfl⟩
  · have hhead : (partsOf groups).head? ≠ some [] :=
      fun heq => hgroups (nil_mem_partsOf_iff.1 (List.mem_of_head? heq))
    exact ⟨fun h => hhead h.1, by rw [if_neg hhead, partsOf, if_neg hgroups]⟩

/-- So does an empty part at the end. -/
theorem getLast?_partsOf (groups : List UInt16) :
    ¬((partsOf groups).getLast? = some [] ∧ (partsOf groups).length ≠ 1) ∧
      (if (partsOf groups).getLast? = some [] then [] else partsOf groups) =
        groups.map groupChars := by
  by_cases hgroups : groups = []
  · subst hgroups
    exact ⟨by simp [partsOf], rfl⟩
  · have hlast : (partsOf groups).getLast? ≠ some [] :=
      fun heq => hgroups (nil_mem_partsOf_iff.1 (List.mem_of_getLast? heq))
    exact ⟨fun h => hlast h.1, by rw [if_neg hlast, partsOf, if_neg hgroups]⟩

/-- Groups on either side of a gap are told apart at it. -/
theorem splitAtGap_partsOf {before after : List UInt16} (h : before.length + after.length ≤ 7) :
    splitAtGap (partsOf before ++ [] :: partsOf after) (partsOf before).length =
      .ok (before.map groupChars, after.map groupChars) := by
  have htake : (partsOf before ++ [] :: partsOf after).take (partsOf before).length =
      partsOf before := List.take_left
  have hdrop : (partsOf before ++ [] :: partsOf after).drop ((partsOf before).length + 1) =
      partsOf after := by
    rw [← List.drop_drop, List.drop_left, List.drop_one, List.tail_cons]
  simp only [splitAtGap, htake, hdrop, Bool.and_eq_true, decide_eq_true_eq]
  rw [if_neg (head?_partsOf before).1, if_neg (getLast?_partsOf after).1,
    (head?_partsOf before).2, (getLast?_partsOf after).2, List.length_map, List.length_map,
    if_neg (by omega)]

/-- Groups around a gap are laid out around it. -/
theorem layOut_gap {before after : List UInt16} (h : before.length + after.length ≤ 6) :
    layOut (partsOf before ++ [] :: partsOf after) =
      .ok (before.map groupChars, after.map groupChars) := by
  have hlength : ¬9 < (partsOf before ++ [] :: partsOf after).length := by
    have hb := length_partsOf_le before
    have ha := length_partsOf_le after
    rw [List.length_append, List.length_cons]
    omega
  have hfirst : [] ∉ (partsOf before).drop 1 := by
    intro hmem
    obtain rfl := nil_mem_partsOf_iff.1 (List.mem_of_mem_drop hmem)
    simp [partsOf] at hmem
  have hlast : [] ∉ (partsOf after).dropLast := by
    intro hmem
    obtain rfl := nil_mem_partsOf_iff.1 (List.dropLast_subset _ hmem)
    simp [partsOf] at hmem
  rw [layOut, if_neg hlength,
    innerGaps_append (partsOf_ne_nil before) (partsOf_ne_nil after) hfirst hlast]
  exact splitAtGap_partsOf (by omega)

/-- Eight groups are laid out without a gap. -/
theorem layOut_all {groups : List UInt16} (h : groups.length = 8) :
    layOut (groups.map groupChars) = .ok (groups.map groupChars, []) := by
  have hnone : [] ∉ groups.map groupChars := by
    intro hmem
    obtain ⟨group, -, hchars⟩ := List.mem_map.1 hmem
    exact groupChars_ne_nil group hchars
  have hgaps : innerGaps (groups.map groupChars) = [] := by
    rw [innerGaps, List.filter_eq_nil_iff]
    intro i _
    simp only [Bool.and_eq_true, decide_eq_true_eq, not_and]
    exact fun _ hget => hnone (List.mem_of_getElem? hget)
  have hhead : (groups.map groupChars).head? ≠ some [] :=
    fun heq => hnone (List.mem_of_head? heq)
  have hlast : (groups.map groupChars).getLast? ≠ some [] :=
    fun heq => hnone (List.mem_of_getLast? heq)
  have hlength : (groups.map groupChars).length = 8 := by
    rw [List.length_map, h]
  rw [layOut, hlength, if_neg (by decide), hgaps]
  simp only [ne_eq, not_true_eq_false, if_false, hhead, hlast]

/-! ## IPv6 -/

/-- What stands in a part of a text stands in the text. -/
theorem mem_of_mem_splitOn {separator c : Char} {text part : List Char}
    (hpart : part ∈ text.splitOn separator) (hc : c ∈ part) : c ∈ text := by
  have hjoin : [separator].intercalate (text.splitOn separator) = text :=
    List.intercalate_splitOn separator
  rw [← hjoin]
  generalize text.splitOn separator = parts at hpart
  induction parts with
  | nil => simp at hpart
  | cons first rest ih =>
      by_cases hrest : rest = []
      · subst hrest
        rw [List.intercalate_singleton, ← List.mem_singleton.1 hpart]
        exact hc
      · rw [List.intercalate_cons_of_ne_nil hrest]
        rcases List.mem_cons.1 hpart with rfl | hpart
        · simp [hc]
        · exact List.mem_append_right _ (ih hpart)

/-- Parts without points are left alone. -/
theorem expandTail_of_no_point {text : List Char} {parts : List (List Char)}
    (h : ∀ part ∈ parts, '.' ∉ part) : expandTail text parts = .ok parts := by
  unfold expandTail
  split
  · rename_i last hlast
    have hpoint : last.contains '.' = false := by
      rw [List.contains_eq_mem, decide_eq_false_iff_not]
      exact h last (List.mem_of_getLast? hlast)
    rw [hpoint]
    rfl
  · rfl

/-- An address is read from parts that are laid out as its groups before and after the run that
is left out. -/
theorem readV6_of_layOut {text : List Char} {before after : List UInt16} {x : V6}
    (hchars : ∀ c ∈ text, Hexadecimal.isDigit c = true ∨ c = ':')
    (hparts : 3 ≤ (text.splitOn ':').length)
    (hlayOut : layOut (text.splitOn ':') = .ok (before.map groupChars, after.map groupChars))
    (hgroups : before ++ List.replicate (8 - (before.length + after.length)) 0 ++ after =
      x.groups) : readV6 text = .ok x := by
  have hslash : text.contains '/' = false := by
    rw [List.contains_eq_mem, decide_eq_false_iff_not]
    intro hmem
    rcases hchars _ hmem with hdigit | hcolon
    · exact absurd hdigit (by decide)
    · simp at hcolon
  have hempty : text.isEmpty = false := by
    rw [List.isEmpty_eq_false_iff]
    rintro rfl
    simp at hparts
  have hexpand : expandTail text (text.splitOn ':') = .ok (text.splitOn ':') := by
    apply expandTail_of_no_point
    intro part hpart hpoint
    have hmem : '.' ∈ text := mem_of_mem_splitOn hpart hpoint
    rcases hchars _ hmem with hdigit | hcolon
    · exact absurd hdigit (by decide)
    · simp at hcolon
  have hassemble : assemble before after = some x := by
    simp only [assemble, hgroups, x.length_eq, dif_pos]
  simp only [readV6, hslash, hempty, Bool.false_eq_true, if_false]
  rw [if_neg (by omega), hexpand]
  simp only [bind, Except.bind, hlayOut, Except.mapError, mapM_readGroup, hassemble]

/-- The written groups of an address are read back. -/
theorem readV6_chars (x : V6) : readV6 x.chars = .ok x := by
  have run := isZeroRun_bestRun x.groups
  have hrun := run.append
  unfold IsZeroRun at run
  have hlength := x.length_eq
  have hchars : ∀ c ∈ x.chars, Hexadecimal.isDigit c = true ∨ c = ':' := fun c => mem_chars_v6
  by_cases hsize : 2 ≤ (bestRun x.groups).2
  · have htext : x.chars = joinGroups (x.groups.take (bestRun x.groups).1) ++
        ':' :: ':' :: joinGroups (x.groups.drop ((bestRun x.groups).1 + (bestRun x.groups).2)) :=
      if_pos hsize
    generalize (bestRun x.groups).1 = start at *
    generalize (bestRun x.groups).2 = size at *
    have hsplit : x.chars.splitOn ':' = partsOf (x.groups.take start) ++
        [] :: partsOf (x.groups.drop (start + size)) := by
      rw [htext, List.splitOn_append_cons_self, splitOn_joinGroups]
      have hgap := List.splitOn_append_cons_self (a := ':') []
        (joinGroups (x.groups.drop (start + size)))
      rw [List.nil_append, splitOn_joinGroups, List.splitOn_nil] at hgap
      rw [hgap]
      rfl
    have hbefore : (x.groups.take start).length = start := by
      rw [List.length_take]
      omega
    have hafter : (x.groups.drop (start + size)).length = 8 - (start + size) := by
      rw [List.length_drop, hlength]
    refine readV6_of_layOut hchars ?_ (hsplit ▸ layOut_gap (by omega)) ?_
    · have hb := List.length_pos_iff.2 (partsOf_ne_nil (x.groups.take start))
      have ha := List.length_pos_iff.2 (partsOf_ne_nil (x.groups.drop (start + size)))
      rw [hsplit, List.length_append, List.length_cons]
      omega
    · have hzeros : 8 - (start + (8 - (start + size))) = size := by omega
      rw [hbefore, hafter, hzeros]
      exact hrun
  · have htext : x.chars = joinGroups x.groups := if_neg hsize
    have hgroups : x.groups ≠ [] := by
      rintro hnil
      simp [hnil] at hlength
    have hsplit : x.chars.splitOn ':' = x.groups.map groupChars := by
      rw [htext, splitOn_joinGroups, partsOf, if_neg hgroups]
    have hlayOut : layOut (x.chars.splitOn ':') =
        .ok (x.groups.map groupChars, ([] : List UInt16).map groupChars) := by
      rw [hsplit]
      exact layOut_all hlength
    refine readV6_of_layOut hchars ?_ hlayOut (by simp [hlength])
    rw [hsplit, List.length_map]
    omega

/-! ## Either family -/

/-- What is read as an address with colons has one. -/
theorem colon_mem_of_readV6 {text : List Char} {x : V6} (h : readV6 text = .ok x) :
    ':' ∈ text := by
  by_contra hcolon
  have hsplit : text.splitOn ':' = [text] := List.splitOn_eq_singleton hcolon
  unfold readV6 at h
  split at h
  · simp at h
  · split at h
    · simp at h
    · simp [hsplit] at h

/-- What is read as groups is hexadecimal digits. -/
theorem all_isDigit_of_mapM_readGroup {parts : List (List Char)} {groups : List UInt16}
    (h : parts.mapM readGroup = .ok groups) {part : List Char} (hpart : part ∈ parts) :
    part.all Hexadecimal.isDigit = true := by
  induction parts generalizing groups with
  | nil => simp at hpart
  | cons first rest ih =>
      rw [List.mapM_cons] at h
      obtain ⟨group, hfirst, h⟩ := of_bind h
      obtain ⟨others, hrest, -⟩ := of_bind h
      rcases List.mem_cons.1 hpart with rfl | hpart
      · simpa using (of_unless hfirst).1
      · exact ih hrest hpart

/-- A part is left alone or is a dotted address. -/
theorem mem_of_expandTail {text : List Char} {parts expanded : List (List Char)}
    (h : expandTail text parts = .ok expanded) {part : List Char} (hpart : part ∈ parts) :
    part ∈ expanded ∨ ∃ x, readV4 part = .ok x := by
  unfold expandTail at h
  split at h
  · next last hlast =>
      split at h
      · cases hread : readV4 last with
        | error cause => simp [hread] at h
        | ok x =>
            simp only [hread, Except.ok.injEq] at h
            rw [← List.dropLast_append_getLast? last hlast, List.mem_append,
              List.mem_singleton] at hpart
            rcases hpart with hpart | rfl
            · exact .inl (h ▸ List.mem_append_left _ hpart)
            · exact .inr ⟨x, hread⟩
      · cases h
        exact .inl hpart
  · cases h
    exact .inl hpart

/-- A part beside a gap is empty or belongs to one of its sides. -/
theorem mem_of_splitAtGap {parts before after : List (List Char)} {gap : Nat}
    (hgap : parts[gap]? = some []) (h : splitAtGap parts gap = .ok (before, after))
    {part : List Char} (hpart : part ∈ parts) : part = [] ∨ part ∈ before ∨ part ∈ after := by
  have hcut : parts = parts.take gap ++ [] :: parts.drop (gap + 1) := by
    obtain ⟨hlt, heq⟩ := List.getElem?_eq_some_iff.1 hgap
    rw [← heq, List.getElem_cons_drop, List.take_append_drop]
  -- an empty part at an end stands alone there, so that nothing else is left out with it
  have alone {side : List (List Char)} (hside : [] ∈ side) (hlength : side.length = 1)
      (hmem : part ∈ side) : part = [] := by
    obtain ⟨only, rfl⟩ := List.length_eq_one_iff.1 hlength
    rw [List.mem_singleton.1 hmem, ← List.mem_singleton.1 hside]
  simp only [splitAtGap, Bool.and_eq_true, decide_eq_true_eq] at h
  obtain ⟨hopens, h⟩ := of_unless h
  obtain ⟨hcloses, h⟩ := of_unless h
  obtain ⟨rfl, rfl⟩ := Prod.mk.inj (Except.ok.inj (of_unless h).2)
  rw [hcut, List.mem_append, List.mem_cons] at hpart
  rcases hpart with hpart | hpart | hpart
  · by_cases hhead : (parts.take gap).head? = some []
    · exact .inl (alone (List.mem_of_head? hhead) (by_contra fun h => hopens ⟨hhead, h⟩) hpart)
    · exact .inr (.inl (by rwa [if_neg hhead]))
  · exact .inl hpart
  · by_cases hlast : (parts.drop (gap + 1)).getLast? = some []
    · exact .inl (alone (List.mem_of_getLast? hlast) (by_contra fun h => hcloses ⟨hlast, h⟩) hpart)
    · exact .inr (.inr (by rwa [if_neg hlast]))

/-- A part that is laid out is empty or belongs to one of the sides. -/
theorem mem_of_layOut {parts before after : List (List Char)} {part : List Char}
    (h : layOut parts = .ok (before, after)) (hpart : part ∈ parts) :
    part = [] ∨ part ∈ before ∨ part ∈ after := by
  unfold layOut at h
  replace h := (of_unless h).2
  split at h
  · replace h := (of_unless (of_unless (of_unless h).2).2).2
    cases h
    exact .inr (.inl hpart)
  · next gap hgaps =>
      have hgap : gap ∈ innerGaps parts := by simp [hgaps]
      simp only [innerGaps, List.mem_filter, Bool.and_eq_true, decide_eq_true_eq] at hgap
      exact mem_of_splitAtGap hgap.2.2 h hpart
  · cases h

/-- What is read as an address with colons is hexadecimal digits, colons and points. -/
theorem mem_of_readV6 {text : List Char} {x : V6} (h : readV6 text = .ok x) {c : Char}
    (hc : c ∈ text) : Hexadecimal.isDigit c = true ∨ c = ':' ∨ c = '.' := by
  have hjoin : [':'].intercalate (text.splitOn ':') = text := List.intercalate_splitOn ':'
  rw [← hjoin] at hc
  rcases mem_intercalate hc with hcolon | ⟨part, hpart, hc⟩
  · exact .inr (.inl hcolon)
  unfold readV6 at h
  replace h := (of_unless (of_unless (of_unless h).2).2).2
  obtain ⟨expanded, hexpand, h⟩ := of_bind h
  obtain ⟨⟨before, after⟩, hlayOut, h⟩ := of_bind h
  obtain ⟨groups, hbefore, h⟩ := of_bind h
  obtain ⟨groups', hafter, -⟩ := of_bind h
  rcases mem_of_expandTail hexpand hpart with hpart | ⟨octets, hread⟩
  · rcases mem_of_layOut (of_mapError hlayOut) hpart with rfl | hpart | hpart
    · simp at hc
    · have hdigits := all_isDigit_of_mapM_readGroup (of_mapError hbefore) hpart
      exact .inl (List.all_eq_true.1 hdigits c hc)
    · have hdigits := all_isDigit_of_mapM_readGroup (of_mapError hafter) hpart
      exact .inl (List.all_eq_true.1 hdigits c hc)
  · rcases isDigit_of_mem_of_readV4 hread hc with hdigit | hpoint
    · exact .inl (Hexadecimal.isDigit_of_isDigit hdigit)
    · exact .inr (.inr hpoint)

/-- What is read as an address with colons is not read as a dotted one. -/
theorem readAddress?_of_colon {text : List Char} (hcolon : ':' ∈ text) {x : V6}
    {scope : Option (List Char)} (h : readScopedV6 text = .ok (x, scope)) :
    readAddress? text = some (.v6 x (scope.map String.ofList)) := by
  obtain ⟨cause, hcause⟩ := readV4_of_colon hcolon
  rw [readAddress?, hcause, h]

/-- A character that is neither a digit nor a colon is not written in groups. -/
theorem notMem_chars_v6 {x : V6} {c : Char} (hdigit : Hexadecimal.isDigit c = false)
    (hcolon : c ≠ ':') : c ∉ x.chars := by
  intro hmem
  rcases mem_chars_v6 hmem with h | h
  · simp [hdigit] at h
  · exact hcolon h

section Zone

variable {bare : List Char} (plain : '%' ∉ bare)
include plain

theorem all_ne_percent : ∀ c ∈ bare, (c != '%') = true := by
  intro c hc
  have hne : c ≠ '%' := fun heq => plain (heq ▸ hc)
  simpa using hne

/-- In front of the percent sign stands the address, -/
theorem takeWhile_zone (zone : List Char) :
    (bare ++ '%' :: zone).takeWhile (· != '%') = bare := by
  rw [List.takeWhile_append_of_pos (all_ne_percent plain), List.takeWhile_cons_of_neg (by simp),
    List.append_nil]

/-- and behind it the zone. -/
theorem dropWhile_zone (zone : List Char) :
    (bare ++ '%' :: zone).dropWhile (· != '%') = '%' :: zone := by
  rw [List.dropWhile_append_of_pos (all_ne_percent plain), List.dropWhile_cons_of_neg (by simp)]

theorem takeWhile_unzoned : bare.takeWhile (· != '%') = bare :=
  List.takeWhile_eq_self_iff.2 (all_ne_percent plain)

theorem dropWhile_unzoned : bare.dropWhile (· != '%') = [] :=
  List.dropWhile_eq_nil_iff.2 (all_ne_percent plain)

end Zone

/-- The written form of a dotted address is read back. -/
theorem readAddress?_chars_v4 (x : V4) : readAddress? x.chars = some (.v4 x) := by
  rw [readAddress?, readV4_chars]

/-- So is that of an address with colons, -/
theorem readAddress?_chars_v6 (x : V6) : readAddress? x.chars = some (.v6 x none) := by
  have hslash : x.chars.contains '/' = false := by
    rw [List.contains_eq_mem, decide_eq_false_iff_not]
    exact notMem_chars_v6 (by decide) (by decide)
  have hplain : '%' ∉ x.chars := notMem_chars_v6 (by decide) (by decide)
  have hread : readScopedV6 x.chars = .ok (x, none) := by
    rw [readScopedV6, hslash, dropWhile_unzoned hplain, readV6_chars]
    rfl
  exact readAddress?_of_colon (colon_mem_of_readV6 (readV6_chars x)) hread

/-- and with a zone behind a percent sign. -/
theorem readAddress?_zone (x : V6) {zone : List Char} (hzone : zone ≠ []) (hpercent : '%' ∉ zone)
    (hslash : '/' ∉ zone) :
    readAddress? (x.chars ++ '%' :: zone) = some (.v6 x (some (String.ofList zone))) := by
  have hnoslash : (x.chars ++ '%' :: zone).contains '/' = false := by
    rw [List.contains_eq_mem, decide_eq_false_iff_not, List.mem_append, List.mem_cons, not_or,
      not_or]
    exact ⟨notMem_chars_v6 (by decide) (by decide), by decide, hslash⟩
  have hplain : '%' ∉ x.chars := notMem_chars_v6 (by decide) (by decide)
  have hpresent : (zone.isEmpty || zone.contains '%') = false := by
    rw [Bool.or_eq_false_iff, List.isEmpty_eq_false_iff, List.contains_eq_mem,
      decide_eq_false_iff_not]
    exact ⟨hzone, hpercent⟩
  have hread : readScopedV6 (x.chars ++ '%' :: zone) = .ok (x, some zone) := by
    rw [readScopedV6, hnoslash, dropWhile_zone hplain, takeWhile_zone hplain, readV6_chars]
    simp only [Bool.false_eq_true, if_false, hpresent]
    rfl
  exact readAddress?_of_colon (List.mem_append_left _ (colon_mem_of_readV6 (readV6_chars x))) hread

end ScannerDiscovery.Ip
