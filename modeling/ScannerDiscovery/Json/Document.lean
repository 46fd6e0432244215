import ScannerDiscovery.Text.Quoted

/-!
# JSON documents

Documents of text, numbers, lists and records, and their written form on indented lines and in
ASCII only.

Main results:

- `Document.render` : the written form.
- `escapeChar_printable` : escaped characters are printable ASCII characters.
-/

namespace ScannerDiscovery.Json

open Text

/-! ## Text -/

/-- A number of 16 bits as an escape. -/
def escapeUnit (n : Nat) : List Char :=
  '\\' :: 'u' :: hexDigits 4 n

/-- One character of a text. Quotes, backslashes and everything but printable ASCII characters
are escaped; characters beyond 16 bits as a pair of surrogates. -/
def escapeChar (c : Char) : List Char :=
  if c == '"' || c == '\\' then ['\\', c]
  else if c == '\n' then ['\\', 'n']
  else if c == '\r' then ['\\', 'r']
  else if c == '\t' then ['\\', 't']
  else if c.toNat = 8 then ['\\', 'b']
  else if c.toNat = 12 then ['\\', 'f']
  else if ' ' ≤ c && c ≤ '~' then [c]
  else if c.toNat < 0x10000 then escapeUnit c.toNat
  else
    let beyond := c.toNat - 0x10000
    escapeUnit (0xD800 + beyond / 0x400) ++ escapeUnit (0xDC00 + beyond % 0x400)

/-- A digit of an escape is a printable ASCII character, -/
theorem digitChar_printable {n : Nat} (h : n < 16) :
    ' ' ≤ Nat.digitChar n ∧ Nat.digitChar n ≤ '~' := by
  have all : ∀ m < 16, ' ' ≤ Nat.digitChar m ∧ Nat.digitChar m ≤ '~' := by decide
  exact all n h

/-- and so are all the digits that stand for a number, -/
theorem hexDigits_printable {width n : Nat} {c : Char} (h : c ∈ hexDigits width n) :
    ' ' ≤ c ∧ c ≤ '~' := by
  simp only [hexDigits, List.mem_map] at h
  obtain ⟨place, -, rfl⟩ := h
  exact digitChar_printable (Nat.mod_lt _ (by decide))

/-- and the whole escape of a code unit. -/
theorem escapeUnit_printable {n : Nat} {c : Char} (h : c ∈ escapeUnit n) :
    ' ' ≤ c ∧ c ≤ '~' := by
  simp only [escapeUnit, List.mem_cons] at h
  rcases h with rfl | rfl | h
  · decide
  · decide
  · exact hexDigits_printable h

/-- Escaped characters are printable ASCII characters. -/
theorem escapeChar_printable {c x : Char} (h : x ∈ escapeChar c) : ' ' ≤ x ∧ x ≤ '~' := by
  have pair : ∀ d : Char, ' ' ≤ d ∧ d ≤ '~' → x ∈ ['\\', d] → ' ' ≤ x ∧ x ≤ '~' := by
    intro d hd hx
    simp only [List.mem_cons, List.not_mem_nil, or_false] at hx
    rcases hx with rfl | rfl
    · decide
    · exact hd
  unfold escapeChar at h
  split at h
  · rename_i hc
    simp only [Bool.or_eq_true, beq_iff_eq] at hc
    rcases hc with rfl | rfl
    · exact pair '"' (by decide) h
    · exact pair '\\' (by decide) h
  split at h
  · exact pair 'n' (by decide) h
  split at h
  · exact pair 'r' (by decide) h
  split at h
  · exact pair 't' (by decide) h
  split at h
  · exact pair 'b' (by decide) h
  split at h
  · exact pair 'f' (by decide) h
  split at h
  · rename_i hc
    simp only [Bool.and_eq_true, decide_eq_true_eq] at hc
    rw [List.mem_singleton.1 h]
    exact hc
  split at h
  · exact escapeUnit_printable h
  · rcases List.mem_append.1 h with h | h
    · exact escapeUnit_printable h
    · exact escapeUnit_printable h

/-- A text in double quotes. -/
def escaped (text : String) : String :=
  String.ofList ('"' :: text.toList.flatMap escapeChar ++ ['"'])

/-! ## Documents -/

/-- A document: nothing, a flag, a number as it is written, text, text in which replacement
characters stand for surrogates without their other half, a list, or a record of named fields. -/
inductive Document
  | null
  | flag (b : Bool)
  | number (literal : String)
  | text (s : String)
  | brokenText (s : String)
  | list (items : List Document)
  | record (fields : List (String × Document))
  deriving Inhabited

/-- A new line, indented by two blanks for each level. -/
def newLine (level : Nat) : String :=
  String.ofList ('\n' :: List.replicate (2 * level) ' ')

/-- Parts between brackets, each on a line of its own one level in. Without parts the brackets
stand together. -/
def enclosed (opening closing : String) (level : Nat) (parts : List String) : String :=
  if parts.isEmpty then opening ++ closing
  else
    opening ++ newLine (level + 1) ++ (String.intercalate ("," ++ newLine (level + 1)) parts) ++
      newLine level ++ closing

namespace Document

/-- A whole number as a document. -/
def integer (n : Int) : Document :=
  number (toString n)

mutual

/-- A document at a level of indentation. -/
def render (level : Nat) : Document → String
  | null => "null"
  | flag b => if b then "true" else "false"
  | number literal => literal
  | text s => escaped s
  | brokenText s => escaped s
  | list items => enclosed "[" "]" level (renderItems (level + 1) items)
  | record fields => enclosed "\x7b" "\x7d" level (renderFields (level + 1) fields)

/-- The items of a list. -/
def renderItems (level : Nat) : List Document → List String
  | [] => []
  | item :: rest => render level item :: renderItems level rest

/-- The fields of a record, each behind its name. -/
def renderFields (level : Nat) : List (String × Document) → List String
  | [] => []
  | (name, value) :: rest =>
    (escaped name ++ ": " ++ render level value) :: renderFields level rest

end

end Document

end ScannerDiscovery.Json
