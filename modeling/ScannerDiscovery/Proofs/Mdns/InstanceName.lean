import Mathlib.Data.Bool.AllAny
import ScannerDiscovery.Mdns.Client
import ScannerDiscovery.Proofs.Text.Lowercase

/-!
# Instance names within full names

A full name is an instance name with the service type behind it, in letters of any case.  Exactly
this type is taken away, and nothing of the name, even where the small-letter form that shows the
type is longer or shorter than the full name itself.

Main definitions:

- `IsTypeSuffix` : the ways in which a service type is written behind a name.

Main results:

- `instanceName_append` : the instance name of a name with a service type behind it.
- `instanceName_exact` : the instance name of any full name.
-/

namespace ScannerDiscovery.Mdns

open Text

/-- Whether a text is the type of a service as it is written behind an instance name, in letters of
any case. -/
def IsTypeSuffix (service : Service) (spelling : String) : Prop :=
  Spells spelling.toList ('.' :: service.domainName.toList)

instance (service : Service) (spelling : String) : Decidable (IsTypeSuffix service spelling) :=
  inferInstanceAs (Decidable (Spells _ _))

variable (service : Service)

/-- The type of a service is written in plain characters. -/
theorem isPlain_suffix : ∀ c ∈ '.' :: service.domainName.toList, IsPlain c := by
  rw [← List.all_iff_forall_prop]
  cases service <;> decide +kernel

/-- The type of a service is written in lower case. -/
theorem toLower_suffix : ('.' :: service.domainName.toList).map Char.toLower =
    '.' :: service.domainName.toList := by
  cases service <;> decide +kernel

/-- The type is found behind a name exactly if it is written there. -/
theorem suffix_iff (full : String) :
    ('.' :: service.domainName.toList).isSuffixOf (toLower full.toList) = true ↔
      ∃ name spelling, IsTypeSuffix service spelling ∧ full = name ++ spelling := by
  rw [List.isSuffixOf_iff_suffix,
    suffix_toLower_iff (isPlain_suffix service) (toLower_suffix service)]
  constructor
  · rintro ⟨name, spelling, heq, spelled⟩
    refine ⟨String.ofList name, String.ofList spelling, ?_, ?_⟩
    · rwa [IsTypeSuffix, String.toList_ofList]
    · rw [← String.ofList_append, ← heq, String.ofList_toList]
  · rintro ⟨name, spelling, spelled, rfl⟩
    exact ⟨name.toList, spelling.toList, String.toList_append, spelled⟩

variable {service}

/-- The instance name of a name with a service type behind it. -/
theorem instanceName_append (name : String) {spelling : String}
    (spelled : IsTypeSuffix service spelling) : instanceName (name ++ spelling) service = name := by
  have found := (suffix_iff service (name ++ spelling)).2 ⟨name, spelling, spelled, rfl⟩
  have size : spelling.toList.length = ('.' :: service.domainName.toList).length := by
    simpa using congrArg List.length spelled
  have rest : (name ++ spelling).length - ('.' :: service.domainName.toList).length =
      name.toList.length := by
    rw [← size, ← String.length_toList, String.toList_append, List.length_append,
      Nat.add_sub_cancel]
  rw [instanceName, if_pos found, rest, String.toList_append, List.take_left, String.ofList_toList]

/-- A full name without a service type behind it is left alone. -/
theorem instanceName_of_none {full : String}
    (none : ¬∃ name spelling, IsTypeSuffix service spelling ∧ full = name ++ spelling) :
    instanceName full service = full :=
  if_neg fun found => none ((suffix_iff service full).1 found)

/-- The full name of an instance is its name with the service type behind it. -/
theorem fullName_eq (name : String) : fullName name service = name ++ ("." ++ service.domainName) :=
  String.append_assoc ..

/-- The type of a service as it is written itself is one way to write it. -/
theorem isTypeSuffix_domainName : IsTypeSuffix service ("." ++ service.domainName) := by
  rw [IsTypeSuffix, String.toList_append]
  rfl

/-- A resolve that is begun looks up the full name of its instance. -/
theorem beginLookup_asks {c : Client} {number : Nat} {resolve : Resolve} {timeout : Int}
    (found : c.resolve? number = some resolve) (isOpen : c.isOpen = true)
    (hasTimeout : c.timeout = some timeout) :
    ∃ resume, Client.beginLookup number c =
      .paused c (.lookUp number resolve.service (fullName resolve.name resolve.service) timeout)
        resume := by
  simp only [Client.beginLookup, bind, Outcome.bind, Routine.get, found, hasTimeout]
  exact ⟨_, congrFun (if_pos isOpen) c⟩

/-- The instance name of a full name: what stands before the service type, however that is written,
and all of a name that does not end in it. -/
theorem instanceName_exact (service : Service) :
    (∀ name spelling, IsTypeSuffix service spelling →
      instanceName (name ++ spelling) service = name) ∧
    (∀ name, instanceName (fullName name service) service = name) ∧
    (∀ (c : Client) number resolve timeout, c.resolve? number = some resolve → c.isOpen = true →
      c.timeout = some timeout → ∃ full resume, instanceName full resolve.service = resolve.name ∧
        Client.beginLookup number c =
          .paused c (.lookUp number resolve.service full timeout) resume) ∧
    ∀ full,
      instanceName full service = full ∧
          (¬∃ name spelling, IsTypeSuffix service spelling ∧ full = name ++ spelling) ∨
        ∃ spelling, IsTypeSuffix service spelling ∧
          full = instanceName full service ++ spelling := by
  have inverts (service : Service) (name : String) :
      instanceName (fullName name service) service = name := by
    rw [fullName_eq, instanceName_append name isTypeSuffix_domainName]
  refine ⟨fun name _ => instanceName_append name, inverts service, ?_, fun full => ?_⟩
  · intro c number resolve timeout found isOpen hasTimeout
    obtain ⟨resume, asks⟩ := beginLookup_asks found isOpen hasTimeout
    exact ⟨_, resume, inverts _ _, asks⟩
  · by_cases ends : ∃ name spelling, IsTypeSuffix service spelling ∧ full = name ++ spelling
    · obtain ⟨name, spelling, spelled, rfl⟩ := ends
      exact .inr ⟨spelling, spelled, by rw [instanceName_append name spelled]⟩
    · exact .inl ⟨instanceName_of_none ends, ends⟩

/-- A name that is longer in small letters, before a type that is written in capitals. -/
theorem instanceName_of_capitals :
    IsTypeSuffix .uscans "._USCANS._TCP.Local." ∧
      instanceName ("DİNÇ ΑΣ" ++ "._USCANS._TCP.Local.") .uscans = "DİNÇ ΑΣ" := by
  have spelled : IsTypeSuffix .uscans "._USCANS._TCP.Local." := by decide +kernel
  exact ⟨spelled, (instanceName_exact .uscans).1 _ _ spelled⟩

end ScannerDiscovery.Mdns
