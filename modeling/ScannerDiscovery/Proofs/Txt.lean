import Mathlib.Data.List.Forall2
import ScannerDiscovery.Proofs.OrderedMap
import ScannerDiscovery.Proofs.Text.Utf8
import ScannerDiscovery.Txt

/-!
# Faithful text records

A text record has what was announced: each key in the place of its first announcement with the value
of the last one, even where keys have become equal because ill-formed bytes were skipped.  Nothing
is lost of properties that are well-formed.  A value is looked up under the first key that differs
in case at most.

Main definitions:

- `RawKey.Denotes`, `RawValue.Denotes` : the texts of announced keys and values.
- `Txt.Decodes` : the texts of announced properties, entry by entry.
- `Txt.announced` : a text record as it is announced in bytes.
- `Txt.FirstMatch` : the first entry whose key has a given small-letter form.

Main results:

- `Txt.decode_announced` : well-formed properties are read back.
- `Txt.value?_cases` : what a lookup gives.
- `Txt.read_faithfully` : text records are those of the announced properties, and are looked up in
  order.
-/

namespace ScannerDiscovery

open Text

/-! ## Keys and values -/

/-- Whether a text is that of an announced key. -/
inductive RawKey.Denotes : RawKey → String → Prop
  | text (s : String) : Denotes (.text s) s
  | bytes {data : List UInt8} {text : List Char} (reads : Utf8.Reads data text) :
      Denotes (.bytes data) (String.ofList text)

/-- Whether a text is that of an announced value. An absent value has the empty text. -/
inductive RawValue.Denotes : RawValue → String → Prop
  | absent : Denotes .absent ""
  | text (s : String) : Denotes (.text s) s
  | bytes {data : List UInt8} {text : List Char} (reads : Utf8.Reads data text) :
      Denotes (.bytes data) (String.ofList text)
  | number (n : Int) : Denotes (.number n) (toString n)

/-- A key has one text. -/
theorem RawKey.denotes_iff {key : RawKey} {s : String} : key.Denotes s ↔ key.decode = s := by
  constructor
  · rintro (_ | reads)
    · rfl
    · rw [decode, Utf8.reads_iff.1 reads]
  · rintro rfl
    cases key with
    | text s => exact .text s
    | bytes data => exact .bytes (Utf8.reads_decode data)

/-- So has a value. -/
theorem RawValue.denotes_iff {value : RawValue} {s : String} :
    value.Denotes s ↔ value.decode = s := by
  constructor
  · rintro (_ | _ | reads | _)
    · rfl
    · rfl
    · rw [decode, Utf8.reads_iff.1 reads]
    · rfl
  · rintro rfl
    cases value with
    | absent => exact .absent
    | text s => exact .text s
    | bytes data => exact .bytes (Utf8.reads_decode data)
    | number n => exact .number n

namespace Txt

variable {txt : Txt} {key value : String}

/-! ## Decoding -/

/-- Whether texts are those of announced properties, entry by entry. -/
def Decodes (properties : OrderedMap RawKey RawValue) (texts : List (String × String)) : Prop :=
  List.Forall₂ (fun raw entry => raw.1.Denotes entry.1 ∧ raw.2.Denotes entry.2)
    properties.entries texts

/-- Announced properties have one text for each entry. -/
theorem decodes_iff {properties : OrderedMap RawKey RawValue} {texts : List (String × String)} :
    Decodes properties texts ↔
      texts = properties.entries.map fun entry => (entry.1.decode, entry.2.decode) := by
  simp only [Decodes, RawKey.denotes_iff, RawValue.denotes_iff]
  generalize properties.entries = entries
  induction entries generalizing texts with
  | nil => simp
  | cons raw rest ih => simp [List.forall₂_cons_left_iff, ih]

/-- A key or value in bytes. -/
def bytesOf (s : String) : List UInt8 :=
  Utf8.encode s.toList

theorem ofList_decode_bytesOf (s : String) : String.ofList (Utf8.decode (bytesOf s)) = s := by
  rw [bytesOf, Utf8.decode_encode, String.ofList_toList]

theorem bytesOf_injective : Function.Injective bytesOf :=
  Utf8.encode_injective.comp fun _ _ => String.toList_injective

/-- A text record as it is announced in bytes. -/
def announced (txt : Txt) : OrderedMap RawKey RawValue where
  entries := txt.entries.map fun entry => (.bytes (bytesOf entry.1), .bytes (bytesOf entry.2))
  distinct := by
    rw [List.map_map]
    have distinct := txt.distinct.map (f := fun name => RawKey.bytes (bytesOf name))
      fun _ _ same => bytesOf_injective (RawKey.bytes.inj same)
    rwa [List.map_map] at distinct

/-- Properties that are announced in well-formed bytes are read back. -/
theorem decode_announced (txt : Txt) : decode (announced txt) = txt := by
  have same : (announced txt).entries.map (fun entry => (entry.1.decode, entry.2.decode)) =
      txt.entries := by
    rw [announced, List.map_map]
    refine (List.map_congr_left fun entry _ => ?_).trans (List.map_id _)
    exact Prod.ext (ofList_decode_bytesOf entry.1) (ofList_decode_bytesOf entry.2)
  rw [decode, same, OrderedMap.ofList_entries]

/-! ## Looking up -/

/-- Whether an entry is the first whose key has a given small-letter form. -/
def FirstMatch (txt : Txt) (key : String) (entry : String × String) : Prop :=
  ∃ before after, txt.entries = before ++ entry :: after ∧ lower entry.1 = key ∧
    ∀ other ∈ before, lower other.1 ≠ key

/-- A lookup gives the value of the first entry that matches, unless that is empty, and nothing if
no entry matches. -/
theorem value?_cases (txt : Txt) (key : String) :
    (∃ name value, txt.FirstMatch key (name, value) ∧
        txt.value? key = if value = "" then none else some value) ∨
      key ∉ txt.keys.map lower ∧ txt.value? key = none := by
  rw [value?]
  cases found : txt.entries.find? fun entry => lower entry.1 == key with
  | none =>
      refine .inr ⟨fun mem => ?_, rfl⟩
      obtain ⟨name, hname, matching⟩ := List.mem_map.1 mem
      obtain ⟨entry, hentry, rfl⟩ := List.mem_map.1 hname
      simpa [matching] using List.find?_eq_none.1 found entry hentry
  | some entry =>
      obtain ⟨name, value⟩ := entry
      obtain ⟨matching, before, after, split, others⟩ := List.find?_eq_some_iff_append.1 found
      refine .inl ⟨name, value, ⟨before, after, split, beq_iff_eq.1 matching, ?_⟩, rfl⟩
      intro other hother
      simpa using others other hother

/-! ## Text records -/

/-- A text record is that of the announced properties, each key in the place of its first and with
the value of its last announcement; well-formed properties are read back; and a lookup gives what
stands under the first key of a small-letter form. -/
theorem read_faithfully :
    (∀ properties, ∃ texts, (∀ others, Decodes properties others ↔ others = texts) ∧
      OrderedMap.Collects texts (decode properties)) ∧
    (∀ txt, decode (announced txt) = txt) ∧
    ∀ (txt : Txt) key,
      (∃ name value, txt.FirstMatch key (name, value) ∧
          txt.value? key = if value = "" then none else some value) ∨
        key ∉ txt.keys.map lower ∧ txt.value? key = none :=
  ⟨fun _ => ⟨_, fun _ => decodes_iff, OrderedMap.collects_ofList _⟩, decode_announced, value?_cases⟩

/-- Keys that become equal where ill-formed bytes are skipped. -/
example :
    (decode ⟨[(.bytes [0x74, 0xED, 0xA0, 0x80], .text "a"), (.text "rs", .absent),
      (.bytes [0x74, 0xFF], .bytes [0xC3, 0xA9, 0xC3])], by decide⟩).entries =
      [("t", "é"), ("rs", "")] := by
  decide +kernel

end Txt

end ScannerDiscovery
