/-
  Findings as JSON records.

  * `Finding.ofJson` reads a record in which every field may be missing; `Finding.toJson` writes all
    of them, in a fixed order.
  * `Severity.ofJson` is the severity that a value of any kind stands for.
-/
import ContractAudit.Finding.Basic
import ContractAudit.Json.Record

namespace ContractAudit

/-- The severity that a value of the service stands for. A list or an object is refused, unless it
is empty. -/
def Severity.ofJson : Json → Except Defect Severity
  | .arr (_ :: _) | .obj (_ :: _) => .error .wrongKind
  | .str s => .ok (.ofService (some s))
  | _ => .ok .warning

namespace Description

/-- Reads a description. -/
def ofJson : Json.Field Description := fun v => do
  let ms ← Json.Field.object v
  let head ← Json.optional ms "head" .string ""
  let tail ← Json.optional ms "tail" .string ""
  pure { head, tail }

/-- The record of a description. -/
def toJson (d : Description) : Json :=
  .obj [("head", .str d.head), ("tail", .str d.tail)]

end Description

namespace Candidate

/-- Reads a location. -/
def ofJson : Json.Field Candidate := fun v => do
  let ms ← Json.Field.object v
  let sourceMap ← Json.optional ms "source_map" .string ""
  let sourceType ← Json.optional ms "source_type" .string ""
  let sourceFormat ← Json.optional ms "source_format" .string ""
  let sourceList ← Json.optional ms "source_list" (.list .string) []
  pure { sourceMap, sourceType, sourceFormat, sourceList }

/-- The record of a location. -/
def toJson (c : Candidate) : Json :=
  .obj [("source_map", .str c.sourceMap), ("source_type", .str c.sourceType),
    ("source_format", .str c.sourceFormat), ("source_list", .texts c.sourceList)]

end Candidate

namespace Finding

/-- Reads a finding. -/
def ofJson : Json.Field Finding := fun v => do
  let ms ← Json.Field.object v
  let swcId ← Json.optional ms "swc_id" (.nullable .string) none
  let swcTitle ← Json.optional ms "swc_title" (.nullable .string) none
  let severity ← Json.optional ms "severity" (.nullable .string) none
  let description ← Json.optional ms "description" Description.ofJson {}
  let locations ← Json.optional ms "locations" (.list Candidate.ofJson) []
  let extra ← Json.optional ms "extra" .object []
  pure { swcId, swcTitle, severity, description, locations, extra }

/-- The record of a finding. -/
def toJson (f : Finding) : Json :=
  .obj [("swc_id", .ofText? f.swcId), ("swc_title", .ofText? f.swcTitle),
    ("severity", .ofText? f.severity), ("description", f.description.toJson),
    ("locations", .arr (f.locations.map Candidate.toJson)), ("extra", .obj f.extra)]

end Finding

end ContractAudit
