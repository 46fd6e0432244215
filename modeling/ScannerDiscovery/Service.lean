/-!
# Service types and discovery methods

Scanners announce themselves under five service types. Each type belongs to one of three
discovery methods, for which the catalog tracks the initial scan.

Main results:

- `PerMethod.get_set`, `PerService.get_set` : tables indexed by methods and services.
- `Service.mem_all`, `Method.mem_all` : the enumerations are complete.
-/

namespace ScannerDiscovery

/-! ## Methods -/

/-- How a device was discovered. -/
inductive Method
  | mdnsHint
  | uscanTcp
  | uscansTcp
  deriving DecidableEq, Repr

namespace Method

/-- All methods, in order. -/
def all : List Method := [mdnsHint, uscanTcp, uscansTcp]

/-- The name of a method. -/
def text : Method → String
  | mdnsHint => "mdns_hint"
  | uscanTcp => "uscan_tcp"
  | uscansTcp => "uscans_tcp"

/-- The method with a given name. -/
def ofText? (name : String) : Option Method :=
  all.find? fun m => m.text == name

/-- Every method is listed. -/
theorem mem_all (m : Method) : m ∈ all := by
  cases m <;> decide

end Method

/-! ## Service types -/

/-- When a resolved service makes its finding publishable. -/
inductive PublishRule
  | always
  | txtScanFlag
  deriving DecidableEq, Repr

/-- The service types that are browsed for scanners. -/
inductive Service
  | ipp
  | ipps
  | uscan
  | uscans
  | scanner
  deriving DecidableEq, Repr

namespace Service

/-- All service types, in order. -/
def all : List Service := [ipp, ipps, uscan, uscans, scanner]

/-- The type name of a service. -/
def text : Service → String
  | ipp => "_ipp._tcp"
  | ipps => "_ipps._tcp"
  | uscan => "_uscan._tcp"
  | uscans => "_uscans._tcp"
  | scanner => "_scanner._tcp"

/-- The service with a given type name. -/
def ofText? (name : String) : Option Service :=
  all.find? fun s => s.text == name

/-- The type name as used on the wire, with the local domain. -/
def domainName (s : Service) : String :=
  s.text ++ ".local."

/-- The discovery method that a service belongs to. -/
def method : Service → Method
  | ipp | ipps | scanner => .mdnsHint
  | uscan => .uscanTcp
  | uscans => .uscansTcp

/-- The scheme of scan endpoints, absent if the service has none. -/
def scheme? : Service → Option String
  | uscan => some "http"
  | uscans => some "https"
  | ipp | ipps | scanner => none

/-- Whether a service is a scan service with endpoints of its own. -/
def isScan (s : Service) : Bool :=
  s.scheme?.isSome

/-- The publish rule of a service. -/
def publishRule : Service → PublishRule
  | ipp | ipps => .txtScanFlag
  | uscan | uscans | scanner => .always

/-- Every service is listed. -/
theorem mem_all (s : Service) : s ∈ all := by
  cases s <;> decide

end Service

/-! ## Tables -/

/-- One value for each method. -/
structure PerMethod (α : Type) where
  mdnsHint : α
  uscanTcp : α
  uscansTcp : α
  deriving DecidableEq

namespace PerMethod

variable {α : Type}

/-- The same value for each method. -/
def const (x : α) : PerMethod α := ⟨x, x, x⟩

/-- The value for a method. -/
def get (t : PerMethod α) : Method → α
  | .mdnsHint => t.mdnsHint
  | .uscanTcp => t.uscanTcp
  | .uscansTcp => t.uscansTcp

/-- The table with another value for one method. -/
def set (t : PerMethod α) (m : Method) (x : α) : PerMethod α :=
  match m with
  | .mdnsHint => { t with mdnsHint := x }
  | .uscanTcp => { t with uscanTcp := x }
  | .uscansTcp => { t with uscansTcp := x }

/-- The same value is found for every method. -/
@[simp]
theorem get_const (x : α) (m : Method) : (const x).get m = x := by
  cases m <;> rfl

/-- Setting the value of one method leaves those of the others. -/
@[simp]
theorem get_set (t : PerMethod α) (m n : Method) (x : α) :
    (t.set m x).get n = if m = n then x else t.get n := by
  cases m <;> cases n <;> rfl

/-- Two families are equal if they agree at every method. -/
theorem ext_get {s t : PerMethod α} (h : ∀ m, s.get m = t.get m) : s = t := by
  cases s
  cases t
  have h₁ := h .mdnsHint
  have h₂ := h .uscanTcp
  have h₃ := h .uscansTcp
  simp only [get] at h₁ h₂ h₃
  simp [h₁, h₂, h₃]

end PerMethod

/-- One value for each service. -/
structure PerService (α : Type) where
  ipp : α
  ipps : α
  uscan : α
  uscans : α
  scanner : α
  deriving DecidableEq

namespace PerService

variable {α : Type}

/-- The same value for each service. -/
def const (x : α) : PerService α := ⟨x, x, x, x, x⟩

/-- The value for a service. -/
def get (t : PerService α) : Service → α
  | .ipp => t.ipp
  | .ipps => t.ipps
  | .uscan => t.uscan
  | .uscans => t.uscans
  | .scanner => t.scanner

/-- The table with another value for one service. -/
def set (t : PerService α) (s : Service) (x : α) : PerService α :=
  match s with
  | .ipp => { t with ipp := x }
  | .ipps => { t with ipps := x }
  | .uscan => { t with uscan := x }
  | .uscans => { t with uscans := x }
  | .scanner => { t with scanner := x }

/-- The same value is found for every service. -/
@[simp]
theorem get_const (x : α) (s : Service) : (const x).get s = x := by
  cases s <;> rfl

/-- Setting the value of one service leaves those of the others. -/
@[simp]
theorem get_set (t : PerService α) (s r : Service) (x : α) :
    (t.set s x).get r = if s = r then x else t.get r := by
  cases s <;> cases r <;> rfl

end PerService

end ScannerDiscovery
