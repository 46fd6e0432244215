import Mathlib.Data.Bool.AllAny
import Mathlib.Data.List.Induction
import Mathlib.Data.List.TakeWhile
import ScannerDiscovery.Proofs.Text.Lowercase
import ScannerDiscovery.Proofs.Uuid.Written
import ScannerDiscovery.Uuid.Derived

/-!
# Announced identifiers

A device announces its identifier in whatever decoration it likes: with letters of either case,
with any characters between the digits, with blanks around it, and with the mark of a resource name
in front.  All these announcements are read, as the identifier that has the digits, and nothing else
is.

Main definitions:

- `Decorates` : texts made from digits by choosing the case of letters and inserting others.
- `Announces` : the texts that announce an identifier.

Main results:

- `Lowers.filter_isDigit` : no digit is lost or won in the small-letter form of a text.
- `ofDigits_digits`, `digits_ofDigits` : identifiers and their digits.
- `announcedDigits_bare`, `announcedDigits_marked` : the digits of an announcement.
- `announcedDigits_eq_iff` : the announcements with the digits of an identifier.
- `parse?_exact` : what is read is what is announced.
-/

namespace ScannerDiscovery

open Text hiding isDigit

/-! ## Hexadecimal digits -/

namespace Hexadecimal

/-- No character outside ASCII is a digit. -/
theorem not_isDigit_of_foreign {c : Char} (foreign : 128 ≤ c.toNat) : isDigit c = false :=
  Bool.eq_false_iff.2 fun digit => absurd (toNat_lt_of_isDigit digit) (Nat.not_lt.2 foreign)

/-- The case of a letter does not matter for its being a digit. -/
theorem isDigit_toLower (c : Char) : isDigit c.toLower = isDigit c := by
  rcases Nat.lt_or_ge c.toNat 128 with ascii | foreign
  · exact forall_ascii (P := fun c => isDigit c.toLower = isDigit c) (by decide) ascii
  · have far : 128 ≤ c.toLower.toNat :=
      Nat.le_of_not_lt fun near => absurd (toNat_lt_of_toLower near) (by omega)
    rw [not_isDigit_of_foreign foreign, not_isDigit_of_foreign far]

/-- A digit in small letters is that of a number. -/
theorem exists_digitChar {c : Char} (digit : isDigit c = true) :
    ∃ k < 16, c.toLower = Nat.digitChar k :=
  forall_ascii (P := fun c => isDigit c = true → ∃ k < 16, c.toLower = Nat.digitChar k) (by decide)
    (toNat_lt_of_isDigit digit) digit

/-- Digits in small letters are those of the number that they denote. -/
theorem hexDigits_number {digits : List Char}
    (small : ∀ c ∈ digits, ∃ k < 16, c = Nat.digitChar k) :
    hexDigits digits.length (number digits) = digits := by
  induction digits using List.reverseRecOn with
  | nil => rfl
  | append_singleton digits c ih =>
      obtain ⟨k, hk, rfl⟩ := small c (by simp)
      have front : (16 * number digits + k) / 16 = number digits := by omega
      have last : (16 * number digits + k) % 16 = k := by omega
      rw [number_append, digitValue?_digitChar hk, Option.getD_some, List.length_append,
        List.length_singleton, hexDigits_concat, front, last, ih fun c hc => small c (by simp [hc])]

end Hexadecimal

namespace Text

/-- No digit is lost or won in the small-letter form of a text. -/
theorem Lowers.filter_isDigit {text lowered : List Char} (lowers : Lowers text lowered) :
    lowered.filter Hexadecimal.isDigit = (text.filter Hexadecimal.isDigit).map Char.toLower := by
  induction lowers with
  | nil => rfl
  | @cons c image text lowered becomes rest ih =>
      rw [List.filter_append, ih]
      rcases Nat.lt_or_ge c.toNat 128 with ascii | foreign
      · rw [becomes.ascii ascii]
        cases digit : Hexadecimal.isDigit c <;>
          simp [digit, Hexadecimal.isDigit_toLower]
      · have lost : image.filter Hexadecimal.isDigit = [] := by
          rcases becomes.foreign foreign with rfl | rfl | ⟨d, rfl, far⟩
          · decide
          · decide
          · simp [Hexadecimal.not_isDigit_of_foreign far]
        have foreign := Hexadecimal.not_isDigit_of_foreign foreign
        rw [lost, List.filter_cons_of_neg (by simp [foreign]), List.nil_append]

/-! ## Blanks at the ends -/

section Trim

variable {class? : Char → Bool}

/-- What is taken from the ends of a text belongs to the class. -/
theorem trim_split (class? : Char → Bool) (text : List Char) :
    ∃ before after, (∀ c ∈ before, class? c = true) ∧ (∀ c ∈ after, class? c = true) ∧
      text = before ++ trim class? text ++ after := by
  refine ⟨text.takeWhile class?, ((text.dropWhile class?).reverse.takeWhile class?).reverse,
    fun c hc => List.mem_takeWhile_imp hc,
    fun c hc => List.mem_takeWhile_imp (List.mem_reverse.1 hc), ?_⟩
  rw [trim, trimEnd, List.append_assoc, ← List.reverse_append, List.takeWhile_append_dropWhile,
    List.reverse_reverse, List.takeWhile_append_dropWhile]

theorem dropWhile_solid {solid : List Char} (foreign : ∀ c ∈ solid, class? c = false) :
    solid.dropWhile class? = solid := by
  cases solid with
  | nil => rfl
  | cons c solid => exact List.dropWhile_cons_of_neg (by simp [foreign c])

/-- Of a text with a part that has nothing of the class, only what stands before and behind this
part is taken away. -/
theorem trim_solid {before solid : List Char} (rest : List Char) (nonempty : solid ≠ [])
    (blank : ∀ c ∈ before, class? c = true) (foreign : ∀ c ∈ solid, class? c = false) :
    trim class? (before ++ (solid ++ rest)) = solid ++ trimEnd class? rest := by
  have front : (solid ++ rest).dropWhile class? = solid ++ rest := by
    rw [List.dropWhile_append, dropWhile_solid foreign, if_neg (by simpa using nonempty)]
  have back : solid.reverse.dropWhile class? = solid.reverse :=
    dropWhile_solid fun c hc => foreign c (List.mem_reverse.1 hc)
  rw [trim, List.dropWhile_append_of_pos blank, front, trimEnd, List.reverse_append,
    List.dropWhile_append, back, trimEnd]
  split
  · rename_i gone
    rw [List.isEmpty_iff.1 gone, List.reverse_reverse, List.reverse_nil, List.append_nil]
  · rw [List.reverse_append, List.reverse_reverse]

end Trim

end Text

namespace Uuid

open Hexadecimal (isDigit)

/-! ## Identifiers and their digits -/

/-- An identifier has thirty-two digits. -/
@[simp]
theorem length_digits (u : Uuid) : u.digits.length = 32 :=
  length_hexDigits 32 _

/-- An identifier is that with its digits. -/
theorem ofDigits_digits (u : Uuid) : ofDigits u.digits = u := by
  have value : Hexadecimal.number u.digits = u.value.toNat := by
    rw [digits, number_hexDigits, Nat.mod_eq_of_lt u.value_lt]
  rw [ofDigits, value, BitVec.ofNat_toNat, BitVec.setWidth_eq]

/-- Digits in small letters are those of the identifier with them. -/
theorem digits_ofDigits {found : List Char} (length : found.length = 32)
    (small : ∀ c ∈ found, ∃ k < 16, c = Nat.digitChar k) : (ofDigits found).digits = found := by
  have written := Hexadecimal.hexDigits_number small
  rw [length] at written
  have fits : Hexadecimal.number found < 2 ^ 128 := by
    have bound := number_hexDigits 32 (Hexadecimal.number found)
    rw [written] at bound
    rw [bound]
    exact Nat.mod_lt _ (by decide)
  rw [digits, ofDigits, BitVec.toNat_ofNat, Nat.mod_eq_of_lt fits, written]

theorem isDigit_of_mem_digits {u : Uuid} {c : Char} (hc : c ∈ u.digits) : isDigit c = true := by
  obtain ⟨place, -, rfl⟩ := List.mem_map.1 hc
  rw [isDigit, Hexadecimal.digitValue?_digitChar (Nat.mod_lt _ (by decide)), Option.isSome_some]

theorem map_toLower_digits (u : Uuid) : u.digits.map Char.toLower = u.digits := by
  refine List.map_congr_left (fun c hc => ?_) |>.trans (List.map_id _)
  obtain ⟨place, -, rfl⟩ := List.mem_map.1 hc
  have small : ∀ k : Fin 16, (Nat.digitChar k).toLower = Nat.digitChar k := by decide
  exact small ⟨_, Nat.mod_lt _ (by decide)⟩

/-! ## Announcements -/

/-- Whether a text is made from digits in small letters by choosing the case of each letter and
inserting characters that are no digits. -/
inductive Decorates : List Char → List Char → Prop
  | nil : Decorates [] []
  | digit {c d : Char} {digits text : List Char} (cased : c.toLower = d)
      (rest : Decorates digits text) : Decorates (d :: digits) (c :: text)
  | other {c : Char} {digits text : List Char} (foreign : isDigit c = false)
      (rest : Decorates digits text) : Decorates digits (c :: text)

/-- A text is made from the digits that are in it. -/
theorem decorates_iff {digits : List Char} (known : ∀ d ∈ digits, isDigit d = true)
    {text : List Char} :
    Decorates digits text ↔ (text.filter isDigit).map Char.toLower = digits := by
  constructor
  · intro decorated
    induction decorated with
    | nil => rfl
    | @digit c d digits text cased rest ih =>
        obtain ⟨first, others⟩ := List.forall_mem_cons.1 known
        have own : isDigit c = true := by rw [← Hexadecimal.isDigit_toLower, cased, first]
        rw [List.filter_cons_of_pos own, List.map_cons, cased, ih others]
    | other foreign rest ih => rw [List.filter_cons_of_neg (by simp [foreign]), ih known]
  · rintro rfl
    clear known
    induction text with
    | nil => exact .nil
    | cons c text ih =>
        cases own : isDigit c with
        | true =>
            rw [List.filter_cons_of_pos own, List.map_cons]
            exact .digit rfl ih
        | false =>
            rw [List.filter_cons_of_neg (by simp [own])]
            exact .other own ih

/-- Whether a text announces an identifier: its decorated digits, with blanks around them, and with
or without the mark of a resource name in front. -/
inductive Announces (u : Uuid) : List Char → Prop
  | bare {before body after : List Char} (left : ∀ c ∈ before, isBlank c = true)
      (decorated : Decorates u.digits body) (right : ∀ c ∈ after, isBlank c = true)
      (unmarked : ¬urnPrefix <+: toLower (trim isBlank (before ++ body ++ after))) :
      Announces u (before ++ body ++ after)
  | marked {before mark body after : List Char} (left : ∀ c ∈ before, isBlank c = true)
      (spelled : Spells mark urnPrefix) (decorated : Decorates u.digits body)
      (right : ∀ c ∈ after, isBlank c = true) :
      Announces u (before ++ mark ++ body ++ after)

/-! ## The digits of an announcement -/

theorem not_isDigit_of_isBlank {c : Char} (blank : isBlank c = true) : isDigit c = false := by
  rcases Nat.lt_or_ge c.toNat 128 with ascii | foreign
  · exact forall_ascii (P := fun c => isBlank c = true → isDigit c = false) (by decide) ascii blank
  · exact Hexadecimal.not_isDigit_of_foreign foreign

theorem filter_isDigit_blanks {blanks : List Char} (blank : ∀ c ∈ blanks, isBlank c = true) :
    blanks.filter isDigit = [] :=
  List.filter_eq_nil_iff.2 fun c hc => by simp [not_isDigit_of_isBlank (blank c hc)]

/-- Blanks around a text have no digits. -/
theorem filter_isDigit_around {before after : List Char} (body : List Char)
    (left : ∀ c ∈ before, isBlank c = true) (right : ∀ c ∈ after, isBlank c = true) :
    (before ++ body ++ after).filter isDigit = body.filter isDigit := by
  rw [List.filter_append, List.filter_append, filter_isDigit_blanks left,
    filter_isDigit_blanks right, List.nil_append, List.append_nil]

/-- No digit is taken from the ends of a text. -/
theorem filter_isDigit_trim (text : List Char) :
    (trim isBlank text).filter isDigit = text.filter isDigit := by
  obtain ⟨before, after, left, right, split⟩ := trim_split isBlank text
  conv_rhs => rw [split, filter_isDigit_around _ left right]

/-- The digits of an announcement without the mark are all its digits. -/
theorem announcedDigits_bare {text : List Char}
    (unmarked : ¬urnPrefix <+: toLower (trim isBlank text)) :
    announcedDigits text = (text.filter isDigit).map Char.toLower := by
  have whole : dropPrefix urnPrefix (toLower (trim isBlank text)) = toLower (trim isBlank text) :=
    if_neg fun found => unmarked (List.isPrefixOf_iff_prefix.1 found)
  rw [announcedDigits, whole, (lowers_toLower _).filter_isDigit, filter_isDigit_trim]

theorem isPlain_urnPrefix : ∀ c ∈ urnPrefix, IsPlain c :=
  List.all_iff_forall_prop.1 (by decide)

theorem ascii_of_spells {mark : List Char} (spelled : Spells mark urnPrefix) :
    ∀ c ∈ mark, c.toNat < 128 :=
  spelled.ascii fun c hc => (isPlain_urnPrefix c hc).1

theorem isBlank_of_spells {mark : List Char} (spelled : Spells mark urnPrefix) :
    ∀ c ∈ mark, isBlank c = false := by
  intro c hc
  have ascii := ascii_of_spells spelled c hc
  have mem : c.toLower ∈ urnPrefix.map Char.toLower := spelled ▸ List.mem_map_of_mem hc
  exact forall_ascii (P := fun c => c.toLower ∈ urnPrefix.map Char.toLower → isBlank c = false)
    (by decide) ascii mem

/-- The digits of an announcement with the mark are those behind it. -/
theorem announcedDigits_marked {before mark body after : List Char}
    (left : ∀ c ∈ before, isBlank c = true) (spelled : Spells mark urnPrefix)
    (right : ∀ c ∈ after, isBlank c = true) :
    announcedDigits (before ++ mark ++ body ++ after) = (body.filter isDigit).map Char.toLower := by
  have nonempty : mark ≠ [] := by
    rintro rfl
    exact absurd spelled (by decide)
  have trimmed : trim isBlank (before ++ mark ++ body ++ after) =
      mark ++ trimEnd isBlank (body ++ after) := by
    rw [List.append_assoc, List.append_assoc,
      trim_solid _ nonempty left (isBlank_of_spells spelled)]
  obtain ⟨front, back, form, lowersMark, lowers⟩ :=
    (lowers_toLower (mark ++ trimEnd isBlank (body ++ after))).divide
  have mark_form : front = urnPrefix := by
    rw [lowersMark.eq_of_ascii (ascii_of_spells spelled), spelled]
    decide
  have rest : dropPrefix urnPrefix (urnPrefix ++ back) = back := by
    rw [dropPrefix, if_pos (List.isPrefixOf_iff_prefix.2 (List.prefix_append _ _)),
      List.drop_left]
  have digits : (trimEnd isBlank (body ++ after)).filter isDigit = body.filter isDigit := by
    have same := filter_isDigit_trim (mark ++ (body ++ after))
    rw [← List.nil_append (mark ++ (body ++ after)), trim_solid _ nonempty (by simp)
      (isBlank_of_spells spelled), List.nil_append, List.filter_append, List.filter_append] at same
    rw [List.append_cancel_left same, List.filter_append, filter_isDigit_blanks right,
      List.append_nil]
  rw [announcedDigits, trimmed, form, mark_form, rest, lowers.filter_isDigit, digits]

/-- What looks like the mark in the small-letter form of a text is the mark in some spelling. -/
theorem mark_of_prefix {text : List Char} (found : urnPrefix <+: toLower (trim isBlank text)) :
    ∃ before mark body after, (∀ c ∈ before, isBlank c = true) ∧ Spells mark urnPrefix ∧
      (∀ c ∈ after, isBlank c = true) ∧ text = before ++ mark ++ body ++ after := by
  obtain ⟨rest, form⟩ := found
  have lowers := lowers_toLower (trim isBlank text)
  rw [← form] at lowers
  obtain ⟨mark, body, divided, spelled, -⟩ := lowers.front isPlain_urnPrefix (by decide)
  obtain ⟨before, after, left, right, split⟩ := trim_split isBlank text
  refine ⟨before, mark, body, after, left, spelled.trans (by decide), right, ?_⟩
  rw [split, divided, ← List.append_assoc before]

/-- The digits that are found are those of a part of the text, in small letters. -/
theorem exists_announcedDigits (text : List Char) :
    ∃ part : List Char, announcedDigits text = (part.filter isDigit).map Char.toLower := by
  by_cases found : urnPrefix <+: toLower (trim isBlank text)
  · obtain ⟨before, mark, body, after, left, spelled, right, rfl⟩ := mark_of_prefix found
    exact ⟨body, announcedDigits_marked left spelled right⟩
  · exact ⟨text, announcedDigits_bare found⟩

theorem announcedDigits_small {text : List Char} :
    ∀ c ∈ announcedDigits text, ∃ k < 16, c = Nat.digitChar k := by
  intro c hc
  obtain ⟨part, form⟩ := exists_announcedDigits text
  rw [form] at hc
  obtain ⟨d, hd, rfl⟩ := List.mem_map.1 hc
  exact Hexadecimal.exists_digitChar (List.mem_filter.1 hd).2

/-- The texts with the digits of an identifier are those that announce it. -/
theorem announcedDigits_eq_iff {u : Uuid} {text : List Char} :
    announcedDigits text = u.digits ↔ Announces u text := by
  have decorates {body : List Char} :
      Decorates u.digits body ↔ (body.filter isDigit).map Char.toLower = u.digits :=
    decorates_iff fun _ => isDigit_of_mem_digits
  constructor
  · intro same
    by_cases found : urnPrefix <+: toLower (trim isBlank text)
    · obtain ⟨before, mark, body, after, left, spelled, right, rfl⟩ := mark_of_prefix found
      rw [announcedDigits_marked left spelled right] at same
      exact .marked left spelled (decorates.2 same) right
    · rw [announcedDigits_bare found] at same
      have bare : Announces u ([] ++ text ++ []) :=
        .bare (by simp) (decorates.2 same) (by simp) (by simpa using found)
      simpa using bare
  · rintro (⟨left, decorated, right, unmarked⟩ | ⟨left, spelled, decorated, right⟩)
    · rw [announcedDigits_bare unmarked, filter_isDigit_around _ left right]
      exact decorates.1 decorated
    · rw [announcedDigits_marked left spelled right]
      exact decorates.1 decorated

/-- An identifier is read exactly if its digits are announced. -/
theorem parseChars?_eq_some_iff {u : Uuid} {text : List Char} :
    parseChars? text = some u ↔ announcedDigits text = u.digits := by
  simp only [parseChars?]
  constructor
  · intro read
    split at read
    · rename_i length
      obtain rfl := Option.some.inj read
      exact (digits_ofDigits length announcedDigits_small).symm
    · cases read
  · intro same
    rw [same, if_pos (length_digits u), ofDigits_digits]

/-! ## The canonical form -/

/-- The pieces of a text have its digits. -/
theorem filter_isDigit_hyphenate (sizes : List Nat) (text : List Char) :
    (hyphenate sizes text).filter isDigit = text.filter isDigit := by
  induction sizes generalizing text with
  | nil => rfl
  | cons size sizes ih =>
      have hyphen : isDigit '-' = false := by decide
      rw [hyphenate, List.filter_append, List.filter_cons_of_neg (by simp [hyphen]), ih,
        ← List.filter_append, List.take_append_drop]

/-- Hyphens add no other characters. -/
theorem mem_hyphenate {sizes : List Nat} {text : List Char} {c : Char}
    (hc : c ∈ hyphenate sizes text) : c = '-' ∨ c ∈ text := by
  induction sizes generalizing text with
  | nil => exact .inr hc
  | cons size sizes ih =>
      rcases List.mem_append.1 hc with front | back
      · exact .inr (List.mem_of_mem_take front)
      · rcases List.mem_cons.1 back with hyphen | later
        · exact .inl hyphen
        · exact (ih later).imp_right List.mem_of_mem_drop

/-- The canonical form does not look like a resource name: that begins with a letter that is no
digit. -/
theorem unmarked_text (u : Uuid) : ¬urnPrefix <+: toLower (trim isBlank u.text.toList) := by
  intro found
  obtain ⟨before, mark, body, after, -, spelled, -, split⟩ := mark_of_prefix found
  obtain ⟨c, hc, small⟩ : ∃ c ∈ mark, c.toLower = 'u' := by
    have mem : 'u' ∈ mark.map Char.toLower := spelled ▸ (by decide)
    exact List.mem_map.1 mem
  have written : c ∈ hyphenate [8, 4, 4, 4] u.digits := by
    rw [text, String.toList_ofList] at split
    rw [split]
    simp [hc]
  rcases mem_hyphenate written with rfl | digit
  · exact absurd small (by decide)
  · have own := Hexadecimal.isDigit_toLower c
    rw [small, isDigit_of_mem_digits digit] at own
    exact absurd own (by decide)

/-- The canonical form announces the identifier. -/
theorem announces_text (u : Uuid) : Announces u u.text.toList := by
  rw [← announcedDigits_eq_iff, announcedDigits_bare (unmarked_text u), text, String.toList_ofList,
    filter_isDigit_hyphenate, List.filter_eq_self.2 fun _ => isDigit_of_mem_digits,
    map_toLower_digits]

/-! ## What is read -/

/-- What is read is what is announced: an identifier is read from the texts that announce it, which
are those with its digits.  Its canonical form is among them, also that of a derived identifier. -/
theorem parse?_exact :
    (∀ text u, parse? text = some u ↔ ∃ t, text = some t ∧ Announces u t.toList) ∧
    (∀ text u, parse? text = some u ↔ ∃ t, text = some t ∧ announcedDigits t.toList = u.digits) ∧
    (∀ u : Uuid, parse? (some u.text) = some u) ∧
    ∀ name, parse? (some (ofName name).text) = some (ofName name) := by
  have announced (text : Option String) (u : Uuid) :
      parse? text = some u ↔ ∃ t, text = some t ∧ announcedDigits t.toList = u.digits := by
    rw [parse?, Option.bind_eq_some_iff]
    simp only [parseChars?_eq_some_iff]
  have canonical (u : Uuid) : parse? (some u.text) = some u :=
    (announced _ u).2 ⟨_, rfl, announcedDigits_eq_iff.2 u.announces_text⟩
  refine ⟨fun text u => ?_, announced, canonical, fun name => canonical _⟩
  simp only [announced, announcedDigits_eq_iff]

example : parse? (some "\tUrn:UUID:<5C1A7D0E 3b52-4f0e-9a57 6B2D1F0C8E41> ") =
    some deviceNamespace := by
  decide +kernel

end Uuid

end ScannerDiscovery
