import ScannerDiscovery.Text.Lowercase

/-!
# Small letters of other scripts

The small-letter form of a text may be longer than the text, and two characters outside ASCII become
ASCII letters: the Kelvin sign, and the capital I with a dot, whose dot stays behind it.  Every
other character outside ASCII becomes one that is outside ASCII as well.  So an ASCII text without
the letter k stands at the end of the small-letter form exactly if a spelling of it stands at the
end of the text, and no character turns into a hexadecimal digit but the digits themselves.

Main definitions:

- `Spells` : texts that differ in the case of ASCII letters only.
- `Lowers` : what small-letter forms a text can have, whatever stands around it.

Main results:

- `lowers_toLower` : the small-letter form is one of these.
- `Lowers.front`, `Lowers.back` : an ASCII text at either end of a small-letter form.
-/

namespace ScannerDiscovery.Text

/-! ## Spellings -/

/-- What holds of each ASCII code point holds of all ASCII characters. -/
theorem forall_ascii {P : Char → Prop} (each : ∀ n < 128, P (Char.ofNat n)) {c : Char}
    (ascii : c.toNat < 128) : P c :=
  Char.ofNat_toNat c ▸ each c.toNat ascii

/-- Whether two texts differ in the case of ASCII letters only. -/
def Spells (spelling text : List Char) : Prop :=
  spelling.map Char.toLower = text.map Char.toLower

instance (spelling text : List Char) : Decidable (Spells spelling text) :=
  inferInstanceAs (Decidable (_ = _))

/-- Only ASCII characters are spellings of ASCII characters. -/
theorem toNat_lt_of_toLower {c : Char} (h : c.toLower.toNat < 128) : c.toNat < 128 := by
  unfold Char.toLower at h
  split at h
  · rename_i capital
    exact Nat.lt_of_le_of_lt (show c.toNat ≤ 'Z'.toNat from capital.2) (by decide)
  · exact h

theorem Spells.ascii {spelling text : List Char} (spells : Spells spelling text)
    (ascii : ∀ c ∈ text, c.toNat < 128) : ∀ c ∈ spelling, c.toNat < 128 := by
  intro c hc
  have mem : c.toLower ∈ text.map Char.toLower := spells ▸ List.mem_map_of_mem hc
  obtain ⟨d, hd, same⟩ := List.mem_map.1 mem
  have small := forall_ascii (P := (·.toLower.toNat < 128)) (by decide) (ascii d hd)
  exact toNat_lt_of_toLower (same ▸ small)

/-! ## The map -/

/-- A run that is found is one of the table's and moves the code point. -/
theorem findRun_mem {table : List Run} {n : Nat} {run : Run} (h : findRun table n = some run) :
    run ∈ table ∧ run.covers n = true := by
  induction table with
  | nil => simp [findRun] at h
  | cons head rest ih =>
      unfold findRun at h
      split at h
      · simp at h
      · split at h
        · obtain rfl : head = run := by simpa using h
          exact ⟨List.mem_cons_self, ‹_›⟩
        · exact ⟨List.mem_cons_of_mem _ (ih h).1, (ih h).2⟩

/-- Whether a run keeps to itself: it moves code points outside ASCII to characters outside
ASCII. -/
def Run.isApart (run : Run) : Bool :=
  128 ≤ run.first + run.offset &&
    (run.last + run.offset < 0xD800 ||
      0xE000 ≤ run.first + run.offset && run.last + run.offset < 0x110000)

theorem Run.toNat_target {run : Run} (apart : run.isApart = true) {n : Nat}
    (covered : run.covers n = true) : 128 ≤ (run.target n).toNat := by
  simp only [isApart, covers, Bool.and_eq_true, Bool.or_eq_true, decide_eq_true_eq] at apart covered
  have valid : ((n : Int) + run.offset).toNat.isValidChar := by
    simp only [Nat.isValidChar]
    omega
  have moved : (run.target n).toNat = ((n : Int) + run.offset).toNat := by
    rw [target, Char.ofNat, dif_pos valid]
    rfl
  omega

/-- Every run is one of ASCII letters, or moves the Kelvin sign, or keeps to itself. -/
theorem isApart_lowercaseMap : ∀ run ∈ lowercaseMap.runs,
    run.last < 128 ∨ run.first = 0x212A ∧ run.last = 0x212A ∧ run.target 0x212A = 'k' ∨
      run.isApart = true := by
  decide +kernel

/-- What may become of a character in the small-letter form of a text: what the map says, but a
capital sigma may become the small one that ends words as well. -/
def Becomes (c : Char) (image : List Char) : Prop :=
  image = lowercaseMap.apply c ∨ c = capitalSigma ∧ (image = ['ς'] ∨ image = ['σ'])

/-- An ASCII character becomes its small letter. -/
theorem Becomes.ascii {c : Char} {image : List Char} (becomes : Becomes c image)
    (ascii : c.toNat < 128) : image = [c.toLower] := by
  rcases becomes with rfl | ⟨rfl, -⟩
  · exact forall_ascii (P := fun c => lowercaseMap.apply c = [c.toLower]) (by decide +kernel) ascii
  · exact absurd ascii (by decide)

/-- A character outside ASCII becomes a k, or an i with a dot behind it, or another character
outside ASCII. -/
theorem Becomes.foreign {c : Char} {image : List Char} (becomes : Becomes c image)
    (foreign : 128 ≤ c.toNat) :
    image = ['k'] ∨ image = ['i', '\u0307'] ∨ ∃ d, image = [d] ∧ 128 ≤ d.toNat := by
  rcases becomes with rfl | ⟨-, rfl | rfl⟩
  · unfold CharMap.apply
    split
    · rename_i codes expanded
      have : codes = [105, 775] := by
        simp only [lowercaseMap, List.lookup_cons, List.lookup_nil] at expanded
        split at expanded <;> simp_all
      subst this
      exact .inr (.inl (by decide))
    · split
      · rename_i run found
        obtain ⟨mem, covered⟩ := findRun_mem found
        rcases isApart_lowercaseMap run mem with ascii | ⟨first, last, kelvin⟩ | apart
        · simp only [Run.covers, Bool.and_eq_true, decide_eq_true_eq] at covered
          omega
        · simp only [Run.covers, Bool.and_eq_true, decide_eq_true_eq] at covered
          have sign : c.toNat = 0x212A := by omega
          exact .inl (by rw [sign, kelvin])
        · exact .inr (.inr ⟨_, rfl, run.toNat_target apart covered⟩)
      · exact .inr (.inr ⟨c, rfl, foreign⟩)
  · exact .inr (.inr ⟨_, rfl, by decide⟩)
  · exact .inr (.inr ⟨_, rfl, by decide⟩)

theorem Becomes.ne_nil {c : Char} {image : List Char} (becomes : Becomes c image) : image ≠ [] := by
  rcases Nat.lt_or_ge c.toNat 128 with ascii | foreign
  · simp [becomes.ascii ascii]
  · rcases becomes.foreign foreign with rfl | rfl | ⟨d, rfl, -⟩ <;> simp

/-! ## Small-letter forms -/

/-- Whether a text can have a small-letter form, whatever stands around it. -/
inductive Lowers : List Char → List Char → Prop
  | nil : Lowers [] []
  | cons {c : Char} {image text lowered : List Char} (becomes : Becomes c image)
      (rest : Lowers text lowered) : Lowers (c :: text) (image ++ lowered)

theorem lowers_lowerFrom (before text : List Char) : Lowers text (lowerFrom before text) := by
  induction text generalizing before with
  | nil => exact .nil
  | cons c rest ih =>
      refine .cons ?_ (ih (c :: before))
      split
      · refine .inr ⟨‹_›, ?_⟩
        unfold smallSigma
        split
        · exact .inl rfl
        · exact .inr rfl
      · exact .inl rfl

/-- The small-letter form of a text is one that it can have. -/
theorem lowers_toLower (text : List Char) : Lowers text (toLower text) :=
  lowers_lowerFrom [] text

namespace Lowers

variable {text lowered s t : List Char} {d : Char}

/-- A text in two parts has a small-letter form in two parts. -/
theorem divide (lowers : Lowers (s ++ t) lowered) :
    ∃ front back, lowered = front ++ back ∧ Lowers s front ∧ Lowers t back := by
  induction s generalizing lowered with
  | nil => exact ⟨[], lowered, rfl, .nil, lowers⟩
  | cons c s ih =>
      cases lowers with
      | @cons _ image _ _ becomes rest =>
          obtain ⟨front, back, rfl, lowers, others⟩ := ih rest
          exact ⟨image ++ front, back, (List.append_assoc ..).symm, .cons becomes lowers, others⟩

/-- An ASCII text has one small-letter form. -/
theorem eq_of_ascii (lowers : Lowers text lowered) (ascii : ∀ c ∈ text, c.toNat < 128) :
    lowered = text.map Char.toLower := by
  induction lowers with
  | nil => rfl
  | cons becomes rest ih =>
      obtain ⟨first, others⟩ := List.forall_mem_cons.1 ascii
      rw [becomes.ascii first, ih others]
      rfl

theorem eq_nil (lowers : Lowers text []) : text = [] := by
  generalize empty : ([] : List Char) = lowered at lowers
  cases lowers with
  | nil => rfl
  | cons becomes rest => exact absurd (List.append_eq_nil_iff.1 empty.symm).1 becomes.ne_nil

/-- The character that a small-letter form begins with. -/
theorem of_cons (lowers : Lowers text (d :: lowered)) :
    ∃ c image text' lowered', text = c :: text' ∧ Becomes c (d :: image) ∧
      lowered = image ++ lowered' ∧ Lowers text' lowered' := by
  generalize form : d :: lowered = all at lowers
  cases lowers with
  | nil => cases form
  | @cons c image text' lowered' becomes rest =>
      cases image with
      | nil => exact absurd rfl becomes.ne_nil
      | cons e image =>
          obtain ⟨rfl, rfl⟩ := List.cons.inj form
          exact ⟨c, image, text', lowered', rfl, becomes, rfl, rest⟩

/-- The character that a small-letter form ends with. -/
theorem of_concat (lowers : Lowers text (lowered ++ [d])) :
    ∃ text' c image lowered', text = text' ++ [c] ∧ Becomes c (image ++ [d]) ∧
      lowered = lowered' ++ image ∧ Lowers text' lowered' := by
  generalize form : lowered ++ [d] = all at lowers
  induction lowers generalizing lowered with
  | nil => simp at form
  | @cons c image text' others becomes rest ih =>
      rcases List.eq_nil_or_concat others with rfl | ⟨others, e, rfl⟩
      · obtain rfl := rest.eq_nil
        rw [List.append_nil] at form
        subst form
        exact ⟨[], c, lowered, [], rfl, becomes, rfl, .nil⟩
      · rw [List.concat_eq_append, ← List.append_assoc] at form
        obtain ⟨rfl, last⟩ := List.append_inj' form rfl
        obtain rfl := (List.cons.inj last).1
        obtain ⟨front, c', image', lowered', rfl, becomes', rfl, lowers⟩ :=
          ih (List.concat_eq_append ..).symm
        exact ⟨c :: front, c', image', image ++ lowered', rfl, becomes',
          (List.append_assoc ..).symm, .cons becomes lowers⟩

end Lowers

/-! ## Plain texts at the ends -/

/-- Whether a character is an ASCII one that no other script has a capital of. -/
def IsPlain (c : Char) : Prop :=
  c.toNat < 128 ∧ c ≠ 'k'

instance (c : Char) : Decidable (IsPlain c) :=
  inferInstanceAs (Decidable (_ ∧ _))

/-- A plain character at the beginning of an image is a small letter, unless it is an i with a dot
behind it. -/
theorem Becomes.of_head {c d : Char} {image : List Char} (becomes : Becomes c (d :: image))
    (plain : IsPlain d) :
    c.toLower = d ∧ image = [] ∨ d = 'i' ∧ image = ['\u0307'] := by
  rcases Nat.lt_or_ge c.toNat 128 with ascii | foreign
  · obtain ⟨rfl, rfl⟩ := List.cons.inj (becomes.ascii ascii)
    exact .inl ⟨rfl, rfl⟩
  · rcases becomes.foreign foreign with kelvin | dotted | ⟨e, other, far⟩
    · exact absurd (List.cons.inj kelvin).1 plain.2
    · exact .inr (List.cons.inj dotted)
    · obtain ⟨rfl, -⟩ := List.cons.inj other
      exact absurd plain.1 (by omega)

/-- A plain character at the end of an image is a small letter. -/
theorem Becomes.of_last {c d : Char} {image : List Char} (becomes : Becomes c (image ++ [d]))
    (plain : IsPlain d) : c.toLower = d ∧ image = [] := by
  cases image with
  | nil =>
      rcases becomes.of_head plain with small | ⟨-, dotted⟩
      · exact small
      · cases dotted
  | cons e image =>
      have long : (e :: image ++ [d]).length ≠ 1 := by simp
      rcases Nat.lt_or_ge c.toNat 128 with ascii | foreign
      · exact absurd (congrArg List.length (becomes.ascii ascii)) long
      · rcases becomes.foreign foreign with kelvin | dotted | ⟨f, other, -⟩
        · exact absurd (congrArg List.length kelvin) long
        · have last := congrArg List.getLast? dotted
          rw [List.getLast?_concat] at last
          obtain rfl : d = '\u0307' := Option.some.inj last
          exact absurd plain (by decide)
        · exact absurd (congrArg List.length other) long

/-- A plain text at the beginning of a small-letter form, of which no dot can follow, is that of a
spelling at the beginning of the text. -/
theorem Lowers.front {text part rest : List Char} (lowers : Lowers text (part ++ rest))
    (plain : ∀ c ∈ part, IsPlain c) (dotless : part.getLast? ≠ some 'i') :
    ∃ spelling body, text = spelling ++ body ∧ spelling.map Char.toLower = part ∧
      Lowers body rest := by
  induction part generalizing text with
  | nil => exact ⟨[], text, rfl, rfl, lowers⟩
  | cons d part ih =>
      obtain ⟨first, others⟩ := List.forall_mem_cons.1 plain
      obtain ⟨c, image, text', lowered', rfl, becomes, form, after⟩ := lowers.of_cons
      rcases becomes.of_head first with ⟨small, rfl⟩ | ⟨rfl, rfl⟩
      · rw [List.nil_append] at form
        subst form
        have dotless' : part.getLast? ≠ some 'i' := by
          cases part with
          | nil => simp
          | cons e part => simpa [List.getLast?_cons_cons] using dotless
        obtain ⟨spelling, body, rfl, rfl, lowers'⟩ := ih after others dotless'
        exact ⟨c :: spelling, body, rfl, by rw [List.map_cons, small], lowers'⟩
      · cases part with
        | nil => exact absurd rfl dotless
        | cons e part =>
            obtain rfl := (List.cons.inj form).1
            exact absurd (others _ List.mem_cons_self) (by decide)

/-- A plain text at the end of a small-letter form is that of a spelling at the end of the text. -/
theorem Lowers.back {text front part : List Char} (lowers : Lowers text (front ++ part))
    (plain : ∀ c ∈ part, IsPlain c) :
    ∃ name spelling, text = name ++ spelling ∧ spelling.map Char.toLower = part := by
  induction h : part.length generalizing text part with
  | zero => exact ⟨text, [], by simp, by simp [List.length_eq_zero_iff.1 h]⟩
  | succ n ih =>
      rcases List.eq_nil_or_concat part with rfl | ⟨part, d, rfl⟩
      · simp at h
      · rw [List.concat_eq_append] at lowers plain h ⊢
        rw [← List.append_assoc] at lowers
        obtain ⟨text', c, image, lowered', rfl, becomes, form, before⟩ := lowers.of_concat
        obtain ⟨small, rfl⟩ := becomes.of_last (plain d (by simp))
        rw [List.append_nil] at form
        subst form
        obtain ⟨name, spelling, rfl, rfl⟩ := ih before (fun c hc => plain c (by simp [hc]))
          (by simpa using h)
        exact ⟨name, spelling ++ [c], by simp, by simp [small]⟩

/-- A plain text of small letters ends the small-letter form of a text exactly if a spelling of it
ends the text. -/
theorem suffix_toLower_iff {text part : List Char} (plain : ∀ c ∈ part, IsPlain c)
    (small : part.map Char.toLower = part) :
    part <:+ toLower text ↔ ∃ name spelling, text = name ++ spelling ∧ Spells spelling part := by
  constructor
  · rintro ⟨front, form⟩
    have lowers := lowers_toLower text
    rw [← form] at lowers
    obtain ⟨name, spelling, heq, spelled⟩ := lowers.back plain
    exact ⟨name, spelling, heq, spelled.trans small.symm⟩
  · rintro ⟨name, spelling, rfl, spelled⟩
    obtain ⟨front, back, form, -, lowers⟩ := (lowers_toLower (name ++ spelling)).divide
    have lowered : back = part := by
      rw [lowers.eq_of_ascii (Spells.ascii spelled fun c hc => (plain c hc).1), spelled, small]
    exact ⟨front, by rw [form, lowered]⟩

end ScannerDiscovery.Text
