import Mathlib.Data.List.Induction
import Mathlib.Data.Nat.Digits.Defs
import ScannerDiscovery.Mdns.Client
import ScannerDiscovery.Proofs.Ip.Written

/-!
# Picking an address with a scope

The first address of an answer is picked without its scope, which names an interface if it is a
decimal number in the digits of any script.  There are digits without a place value, which a number
cannot be read from: a scope of digits among which one is such is refused, and with it the answer.

Main definitions:

- `DenotesNumber` : the decimal numbers in digits of any script, and what they denote.
- `IsFalseNumber` : the texts of digits that are no decimal number.
- `IsWritten` : the ways to write an address, with or without a scope.

Main results:

- `scopeInterface_of_number`, `scopeInterface_of_name`, `scopeInterface_of_falseNumber` : the
  interface that a scope names.
- `pickAddress_of_written` : what is picked from an address with a scope.
- `false_number_refused` : a valid address that is not picked.
- `picked_unless_false_number` : all others are.
-/

namespace ScannerDiscovery

/-! ## Numbers in digits of any script -/

namespace Text

/-- Whether a text is a decimal number, in digits of any script, that denotes a given number. -/
inductive DenotesNumber : List Char → Nat → Prop
  | digit {c : Char} {d : Nat} (value : decimalValue? c = some d) : DenotesNumber [c] d
  | further {text : List Char} {n : Nat} {c : Char} {d : Nat} (front : DenotesNumber text n)
      (value : decimalValue? c = some d) : DenotesNumber (text ++ [c]) (10 * n + d)

/-- Whether a text has digits only, of which one is no decimal digit. -/
structure IsFalseNumber (text : List Char) : Prop where
  digits : ∀ c ∈ text, isDigit c = true
  undecimal : ∃ c ∈ text, decimalValue? c = none

/-- A number is read digit by digit, the last one at the end. -/
theorem decimalNumber?_concat (text : List Char) (c : Char) :
    decimalNumber? (text ++ [c]) =
      (decimalNumber? text).bind fun n => (decimalValue? c).bind fun d => some (10 * n + d) := by
  rw [decimalNumber?, List.foldl_append]
  rfl

namespace DenotesNumber

variable {text : List Char} {n : Nat}

/-- A decimal number is read as what it denotes. -/
theorem read (denotes : DenotesNumber text n) : decimalNumber? text = some n := by
  induction denotes with
  | @digit c d value =>
      rw [← List.nil_append [c], decimalNumber?_concat, value]
      exact congrArg some (Nat.zero_add d)
  | further front value ih => rw [decimalNumber?_concat, ih, value]; rfl

/-- A decimal number has a digit. -/
theorem ne_nil (denotes : DenotesNumber text n) : text ≠ [] := by
  cases denotes <;> simp

/-- Its characters are decimal digits. -/
theorem isSome_of_mem (denotes : DenotesNumber text n) {c : Char} (hc : c ∈ text) :
    (decimalValue? c).isSome = true := by
  induction denotes with
  | digit value => rw [List.mem_singleton.1 hc, value, Option.isSome_some]
  | further front value ih =>
      rcases List.mem_append.1 hc with hc | hc
      · exact ih hc
      · rw [List.mem_singleton.1 hc, value, Option.isSome_some]

/-- A decimal number consists of digits. -/
theorem allDigits (denotes : DenotesNumber text n) : allDigits text = true := by
  rw [Text.allDigits, Bool.and_eq_true, List.all_eq_true]
  refine ⟨by simpa using denotes.ne_nil, fun c hc => ?_⟩
  obtain ⟨d, value⟩ := Option.isSome_iff_exists.1 (denotes.isSome_of_mem hc)
  exact decimalValue?_isDigit value

/-- The decimal digits of a number denote it. -/
theorem of_toDigits (n : Nat) : DenotesNumber (Nat.toDigits 10 n) n := by
  have value {k : Nat} (hk : k < 10) : decimalValue? k.digitChar = some k := by
    have all : ∀ k < 10, decimalValue? k.digitChar = some k := by decide
    exact all k hk
  induction n using Nat.base_induction 10 (by decide) with
  | single m hm =>
      rw [Nat.toDigits_of_lt_base hm]
      exact .digit (value hm)
  | digit m k hk hm ih =>
      rw [← Nat.toDigits_append_toDigits (by decide) hm hk, Nat.toDigits_of_lt_base hk]
      exact .further ih (value hk)

end DenotesNumber

/-- Decimal digits denote a number. -/
theorem exists_denotesNumber {text : List Char} (nonempty : text ≠ [])
    (decimal : ∀ c ∈ text, decimalValue? c ≠ none) : ∃ n, DenotesNumber text n := by
  induction text using List.reverseRecOn with
  | nil => exact absurd rfl nonempty
  | append_singleton text c ih =>
      obtain ⟨d, value⟩ := Option.ne_none_iff_exists'.1 (decimal c (by simp))
      by_cases front : text = []
      · subst front
        exact ⟨d, .digit value⟩
      · obtain ⟨n, denotes⟩ := ih front fun c hc => decimal c (by simp [hc])
        exact ⟨_, .further denotes value⟩

/-- No number is read where a character is no decimal digit. -/
theorem decimalNumber?_of_none {text : List Char} {c : Char} (hc : c ∈ text)
    (undecimal : decimalValue? c = none) : decimalNumber? text = none := by
  induction text using List.reverseRecOn with
  | nil => simp at hc
  | append_singleton text last ih =>
      rw [decimalNumber?_concat]
      rcases List.mem_append.1 hc with hc | hc
      · rw [ih hc]
        rfl
      · rw [← List.mem_singleton.1 hc, undecimal]
        cases decimalNumber? text <;> rfl

end Text

open Text

namespace Mdns

/-! ## The interface of a scope -/

section Scope

variable {scope : List Char}

/-- A scope in decimal digits names the interface of that number. -/
theorem scopeInterface_of_number {n : Nat} (denotes : DenotesNumber scope n) :
    scopeInterface scope = .ok (some (n : Int)) := by
  rw [scopeInterface, if_pos denotes.allDigits, denotes.read]

/-- A scope with another character than digits names no interface, nor does an empty one. -/
theorem scopeInterface_of_name (name : scope = [] ∨ ∃ c ∈ scope, isDigit c = false) :
    scopeInterface scope = .ok none := by
  have digits : ¬allDigits scope = true := by
    rw [allDigits, Bool.and_eq_true, not_and_or]
    rcases name with rfl | ⟨c, hc, other⟩
    · exact .inl (by simp)
    · exact .inr fun all => by simp [List.all_eq_true.1 all c hc] at other
  rw [scopeInterface, if_neg digits]

/-- A scope in digits of which one is no decimal digit is refused. -/
theorem scopeInterface_of_falseNumber (false? : IsFalseNumber scope) :
    scopeInterface scope = .error (.notANumber (String.ofList scope)) := by
  obtain ⟨c, hc, undecimal⟩ := false?.undecimal
  have digits : allDigits scope = true := by
    rw [allDigits, Bool.and_eq_true]
    exact ⟨by simpa using List.ne_nil_of_mem hc, List.all_eq_true.2 false?.digits⟩
  rw [scopeInterface, if_pos digits, decimalNumber?_of_none hc undecimal]

/-- Every scope is a number, a name or a false number. -/
theorem scope_cases (scope : List Char) :
    (∃ n, DenotesNumber scope n) ∨ (scope = [] ∨ ∃ c ∈ scope, isDigit c = false) ∨
      IsFalseNumber scope := by
  by_cases name : scope = [] ∨ ∃ c ∈ scope, isDigit c = false
  · exact .inr (.inl name)
  · simp only [not_or, not_exists, not_and, Bool.not_eq_false] at name
    by_cases decimal : ∃ c ∈ scope, decimalValue? c = none
    · exact .inr (.inr ⟨name.2, decimal⟩)
    · exact .inl (exists_denotesNumber name.1 fun c hc none => decimal ⟨c, hc, none⟩)

end Scope

/-! ## Picking an address -/

/-- Whether a text is a valid address with a given scope behind a percent sign, or without a scope,
which is given as an empty one. -/
inductive IsWritten : String → Ip.V6 → String → Prop
  | unzoned {text : String} {a : Ip.V6} (valid : Ip.readV6 text.toList = .ok a) :
      IsWritten text a ""
  | zoned {text : String} {a : Ip.V6} (valid : Ip.readV6 text.toList = .ok a) (scope : String) :
      IsWritten (text ++ "%" ++ scope) a scope

/-- A printed address is written with its scope. -/
theorem isWritten_text (a : Ip.V6) (scope : String) :
    IsWritten (Ip.Address.v6 a (some scope)).text a scope :=
  .zoned (by rw [String.toList_ofList, Ip.readV6_chars]) scope

/-- What is picked from an address with a scope: the address and the interface of its scope. -/
theorem pickAddress_of_written {text : String} {a : Ip.V6} {scope : String}
    (written : IsWritten text a scope) (v4 rest : List String) :
    pickAddress v4 (text :: rest) .ipv6 =
      (scopeInterface scope.toList).map fun ifindex => (some (.v6 a none), ifindex) := by
  have plain {bare : String} (valid : Ip.readV6 bare.toList = .ok a) : '%' ∉ bare.toList := by
    intro mem
    rcases Ip.mem_of_readV6 valid mem with digit | colon | point
    · exact absurd digit (by decide)
    · cases colon
    · cases point
  cases written with
  | unzoned valid =>
      rw [pickAddress, Ip.dropWhile_unzoned (plain valid), Ip.takeWhile_unzoned (plain valid),
        valid]
      rfl
  | @zoned bare _ valid scope =>
      have split : (bare ++ "%" ++ scope).toList = bare.toList ++ '%' :: scope.toList := by simp
      rw [pickAddress, split, Ip.dropWhile_zone (plain valid), Ip.takeWhile_zone (plain valid),
        valid, List.drop_one, List.tail_cons]
      cases scopeInterface scope.toList <;> rfl

section Written

variable {text : String} {a : Ip.V6} {scope : String} (written : IsWritten text a scope)
  (v4 rest : List String)
include written

/-- An address whose scope is a decimal number comes with that interface. -/
theorem pickAddress_of_number {n : Nat} (denotes : DenotesNumber scope.toList n) :
    pickAddress v4 (text :: rest) .ipv6 = .ok (some (.v6 a none), some (n : Int)) := by
  rw [pickAddress_of_written written, scopeInterface_of_number denotes]
  rfl

/-- An address whose scope is no number comes without an interface. -/
theorem pickAddress_of_name
    (name : scope.toList = [] ∨ ∃ c ∈ scope.toList, isDigit c = false) :
    pickAddress v4 (text :: rest) .ipv6 = .ok (some (.v6 a none), none) := by
  rw [pickAddress_of_written written, scopeInterface_of_name name]
  rfl

/-- An address whose scope is a false number is refused. -/
theorem pickAddress_of_falseNumber (false? : IsFalseNumber scope.toList) :
    pickAddress v4 (text :: rest) .ipv6 = .error (.notANumber scope) := by
  rw [pickAddress_of_written written, scopeInterface_of_falseNumber false?, String.ofList_toList]
  rfl

/-- An address is picked, with some interface or none, exactly if its scope is no false number. -/
theorem exists_pickAddress_iff :
    (∃ ifindex, pickAddress v4 (text :: rest) .ipv6 = .ok (some (.v6 a none), ifindex)) ↔
      ¬IsFalseNumber scope.toList := by
  constructor
  · rintro ⟨ifindex, picked⟩ false?
    rw [pickAddress_of_falseNumber written v4 rest false?] at picked
    cases picked
  · intro true?
    rcases scope_cases scope.toList with ⟨n, denotes⟩ | name | false?
    · exact ⟨_, pickAddress_of_number written v4 rest denotes⟩
    · exact ⟨_, pickAddress_of_name written v4 rest name⟩
    · exact absurd false? true?

end Written

/-! ## Reporting a resolve -/

/-- A resolve with a lookup that is answered reports what the answer brings. -/
theorem endLookup_reports {c : Client} {resolve : Resolve}
    (found : c.resolve? resolve.number = some resolve) (isOpen : c.isOpen = true)
    (answer : Answer) :
    ∃ c' resume, Client.endLookup resolve.number (.answered answer) c =
      .paused c' (.report (.resolve (Client.resolvedBy resolve answer))) resume := by
  simp only [Client.endLookup, bind, Outcome.bind, Routine.get, found, Routine.modify]
  exact ⟨_, _, congrFun (if_pos isOpen) _⟩

/-- A resolve succeeds with the address that is picked, if the port is not zero. -/
theorem resolvedBy_of_picked {resolve : Resolve} {answer : Answer} {address : Ip.Address}
    {ifindex : Option Int} {port : Int}
    (picked : pickAddress answer.v4 answer.v6 resolve.family = .ok (some address, ifindex))
    (hport : answer.port = some port) (nonzero : port ≠ 0) :
    Client.resolvedBy resolve answer =
      { op := resolve.handle, kind := .found, address := some address, port,
        txt := Txt.decode answer.properties, ifindex } := by
  simp [Client.resolvedBy, picked, hport, nonzero]

/-- A resolve for a valid address and a port fails exactly if the scope is a false number. -/
theorem kind_resolvedBy_of_written {text : String} {a : Ip.V6} {scope : String}
    (written : IsWritten text a scope) {rest : List String} {resolve : Resolve} {answer : Answer}
    {port : Int} (family : resolve.family = .ipv6) (listed : answer.v6 = text :: rest)
    (hport : answer.port = some port) (nonzero : port ≠ 0) :
    (Client.resolvedBy resolve answer).kind = .failure ↔ IsFalseNumber scope.toList := by
  by_cases false? : IsFalseNumber scope.toList
  · refine iff_of_true ?_ false?
    have refused := pickAddress_of_falseNumber written answer.v4 rest false?
    rw [← listed, ← family] at refused
    rw [Client.resolvedBy, refused]
  · refine iff_of_false ?_ false?
    obtain ⟨ifindex, picked⟩ := (exists_pickAddress_iff written answer.v4 rest).2 false?
    rw [← listed, ← family] at picked
    rw [resolvedBy_of_picked picked hport nonzero]
    exact nofun

/-! ## What is picked and what is not -/

/-- A valid address with a scope that is not picked, so that the resolve is reported as failed. -/
theorem false_number_refused :
    (∃ a, Ip.readScopedV6 "fe80::1%²".toList = .ok (a, some ['²'])) ∧
      pickAddress [] ["fe80::1%²"] .ipv6 = .error (.notANumber "²") ∧
      (Client.resolvedBy ⟨0, .uscan, "Scanner", .ipv6⟩ ⟨[], ["fe80::1%²"], some 80, .empty⟩).kind =
        .failure := by
  refine ⟨⟨⟨[0xFE80, 0, 0, 0, 0, 0, 0, 1], rfl⟩, ?_⟩, ?_, ?_⟩ <;> decide +kernel

/-- The first address of an answer is picked without its scope, with the interface that a decimal
scope names, and reported by the resolve, unless its scope is a false number.  A printed address
with the number of an interface is one of these. -/
theorem picked_unless_false_number {text : String} {a : Ip.V6} {scope : String}
    (written : IsWritten text a scope) (v4 rest : List String) :
    (∀ n : Nat, DenotesNumber scope.toList n →
      pickAddress v4 (text :: rest) .ipv6 = .ok (some (.v6 a none), some (n : Int))) ∧
    ((scope.toList = [] ∨ ∃ c ∈ scope.toList, isDigit c = false) →
      pickAddress v4 (text :: rest) .ipv6 = .ok (some (.v6 a none), none)) ∧
    (IsFalseNumber scope.toList →
      pickAddress v4 (text :: rest) .ipv6 = .error (.notANumber scope)) ∧
    (∀ n : Nat, pickAddress v4 ((Ip.Address.v6 a (some (toString n))).text :: rest) .ipv6 =
      .ok (some (.v6 a none), some (n : Int))) ∧
    ∀ (resolve : Resolve) (answer : Answer) (port : Int), resolve.family = .ipv6 →
      answer.v6 = text :: rest → answer.port = some port → port ≠ 0 →
      ((Client.resolvedBy resolve answer).kind = .failure ↔ IsFalseNumber scope.toList) ∧
      ∀ c : Client, c.resolve? resolve.number = some resolve → c.isOpen = true →
        ∃ c' resume, Client.endLookup resolve.number (.answered answer) c =
          .paused c' (.report (.resolve (Client.resolvedBy resolve answer))) resume := by
  refine ⟨fun n => pickAddress_of_number written v4 rest, pickAddress_of_name written v4 rest,
    pickAddress_of_falseNumber written v4 rest, fun n => ?_, ?_⟩
  · have denotes : DenotesNumber (toString n).toList n := by
      rw [Nat.toString_eq_repr, Nat.toList_repr]
      exact .of_toDigits n
    exact pickAddress_of_number (isWritten_text a _) v4 rest denotes
  · intro resolve answer port family listed hport nonzero
    exact ⟨kind_resolvedBy_of_written written family listed hport nonzero,
      fun c found isOpen => endLookup_reports found isOpen answer⟩

/-- A scope in the digits of two scripts. -/
theorem mixed_scope_picked :
    ∃ a, IsWritten "fe80::0:1%1٣" a "1٣" ∧ DenotesNumber ['1', '٣'] 13 ∧
      pickAddress [] ["fe80::0:1%1٣"] .ipv6 = .ok (some (.v6 a none), some 13) := by
  have valid : Ip.readV6 "fe80::0:1".toList = .ok ⟨[0xFE80, 0, 0, 0, 0, 0, 0, 1], rfl⟩ := by
    decide +kernel
  have written := IsWritten.zoned valid "1٣"
  have denotes : DenotesNumber ['1', '٣'] 13 :=
    .further (.digit (c := '1') (d := 1) (by decide)) (d := 3) (by decide)
  exact ⟨_, written, denotes, (picked_unless_false_number written [] []).1 13 denotes⟩

end Mdns

end ScannerDiscovery
