import ScannerDiscovery.Catalog.Devices
import ScannerDiscovery.Json.Document

/-!
# Reports of devices

The list of devices as a structured document and as plain lines.

Main definitions:

- `document` : the devices as a document.
- `lines` : the devices as plain lines.
-/

namespace ScannerDiscovery.Report

open Json (Document)

/-- An endpoint as a document. -/
def endpointDocument (e : Endpoint) : Document :=
  .record [("proto", .text e.proto.text), ("uri", .text e.uri)]

/-- A device as a document. -/
def deviceDocument (d : Device) : Document :=
  .record [
    ("uuid", .text d.uuid.text),
    ("name", .text d.name),
    ("model", .text d.model),
    ("methods", .list (d.methods.map fun m => .text m.text)),
    ("ifindexes", .list (d.ifindexes.map .integer)),
    ("endpoints", .list (d.endpoints.map endpointDocument))]

/-- Devices as a document. -/
def document (devices : List Device) : Document :=
  .list (devices.map deviceDocument)

/-- A device as plain lines. -/
def deviceLines (d : Device) : List String :=
  [d.name, "  model: " ++ d.model, "  uuid:  " ++ d.uuid.text] ++
    d.endpoints.map fun e => "  " ++ e.proto.text ++ ": " ++ e.uri

/-- Devices as plain lines. -/
def lines (devices : List Device) : List String :=
  if devices.isEmpty then ["No scanners found"] else devices.flatMap deviceLines

/-- Lines as one text, each with its end. -/
def joined (lines : List String) : String :=
  String.join (lines.map (· ++ "\n"))

end ScannerDiscovery.Report
