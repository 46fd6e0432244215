/-!
# Character classes and maps given by ranges

Tables of Unicode properties. A class is a sorted list of ranges of code points; a map is a
sorted list of runs, each moving its code points by one offset, with a list of exceptions for
characters that become several.

Main results:

- `CharMap.applyAll_append` : a map works character by character.
-/

namespace ScannerDiscovery.Text

/-! ## Classes -/

/-- The range of a sorted table that holds a code point. -/
def findRange : List (Nat × Nat) → Nat → Option (Nat × Nat)
  | [], _ => none
  | range :: rest, n =>
    if n < range.1 then none
    else if n ≤ range.2 then some range
    else findRange rest n

/-- Whether a sorted table of ranges holds a character. -/
def inRanges (table : List (Nat × Nat)) (c : Char) : Bool :=
  (findRange table c.toNat).isSome

/-! ## Maps -/

/-- Every `stride`-th code point from `first` to `last` moves by `offset`. -/
structure Run where
  first : Nat
  last : Nat
  stride : Nat
  offset : Int

/-- Whether a run moves a code point. -/
def Run.covers (run : Run) (n : Nat) : Bool :=
  run.first ≤ n && n ≤ run.last && (n - run.first) % run.stride == 0

/-- Where a run moves a code point. -/
def Run.target (run : Run) (n : Nat) : Char :=
  Char.ofNat ((n : Int) + run.offset).toNat

/-- The first run of a sorted table that moves a code point. -/
def findRun : List Run → Nat → Option Run
  | [], _ => none
  | run :: rest, n =>
    if n < run.first then none
    else if run.covers n then some run
    else findRun rest n

/-- A map from characters to texts that leaves most characters alone. -/
structure CharMap where
  runs : List Run
  expansions : List (Nat × List Nat)

namespace CharMap

/-- The image of one character. -/
def apply (map : CharMap) (c : Char) : List Char :=
  match map.expansions.lookup c.toNat with
  | some codes => codes.map Char.ofNat
  | none =>
    match findRun map.runs c.toNat with
    | some run => [run.target c.toNat]
    | none => [c]

/-- The image of a text, character by character. -/
def applyAll (map : CharMap) (text : List Char) : List Char :=
  text.flatMap map.apply

/-- The empty text is left alone. -/
@[simp]
theorem applyAll_nil (map : CharMap) : map.applyAll [] = [] := rfl

/-- A text is mapped part by part. -/
@[simp]
theorem applyAll_append (map : CharMap) (s t : List Char) :
    map.applyAll (s ++ t) = map.applyAll s ++ map.applyAll t := by
  simp [applyAll]

end CharMap

end ScannerDiscovery.Text
