import Telemetry.Distribution
import Telemetry.Hdr.Payload
import Telemetry.PayloadMode
import Telemetry.Reservoir.Basic

/-!
# What a report says about a reading

A `Digest` is the summary of a reading and, where the mode asks for it and the reading has bins, the
written counts. The scale applies to the summary alone. The counts are written first, so a reading
whose counts cannot be written has no digest.
-/

namespace Telemetry

/-- Why a reading has no digest. -/
inductive DigestError where
  /-- A count is too large to be written. -/
  | countTooLarge
  deriving DecidableEq, Repr

/-- The text of a cause. -/
def DigestError.message : DigestError → String
  | countTooLarge =>
    "compressed serialization failed: InternalSerializationError(CountNotSerializable)"

/-- The summary of a reading, and its counts in written form. -/
structure Digest where
  summary : Summary
  payload : Option (List UInt8)

namespace Reading

/-- The counts that a mode selects of a reading. -/
def projection (mode : PayloadMode) (total sinceLast : Hdr) : Hdr :=
  match mode with
  | .snapshot => sinceLast
  | .none | .total => total

/-- What a report says about a reading. -/
def digest (mode : PayloadMode) (scale : Float) : Reading → Except DigestError Digest
  | sampled values => .ok ⟨.of values scale, none⟩
  | binned total sinceLast =>
    let counts := projection mode total sinceLast
    if mode = .none then .ok ⟨.of counts scale, none⟩
    else
      match Hdr.Payload.encode? counts with
      | none => .error .countTooLarge
      | some payload => .ok ⟨.of counts scale, some payload⟩

end Reading

end Telemetry
