import MeterSync.Codec

/-!
# Clients

A client carries entries to devices and back. It may answer a call in any way and change with every
call; what is known of a device is what its answers say.
-/

set_option autoImplicit false

namespace MeterSync

/-- Why a call as a whole had no effect. -/
inductive ClientError where
  | unreachable (device : DeviceId)
  | rejected (reason : String)
  | codec (error : CodecError)
deriving DecidableEq, Repr

def ClientError.message : ClientError → String
  | .unreachable device => s!"device {device.text} is not reachable"
  | .rejected reason => s!"request rejected by device: {reason}"
  | .codec error => s!"codec error: {error.message}"

/-- The answer to one written entry: a reason if it was refused, and none if it was taken. -/
abbrev WriteStatus := Option String

/-- The calls that a client answers. A write is answered by one status per entry, in order, and a
read by every cell of the arrays asked for. -/
class Client (Connection : Type) where
  write : Connection → DeviceId → List Wire.Entry →
    Except ClientError (List WriteStatus) × Connection
  read : Connection → DeviceId → List UInt32 →
    Except ClientError (List Wire.Entry) × Connection

end MeterSync
