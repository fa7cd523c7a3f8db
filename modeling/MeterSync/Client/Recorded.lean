import MeterSync.Client

/-!
# Recorded clients

A client that passes every call on to another and keeps a record of all calls with their answers,
the oldest first.
-/

set_option autoImplicit false

namespace MeterSync

inductive ClientCall where
  | write (device : DeviceId) (entries : List Wire.Entry)
      (answer : Except ClientError (List WriteStatus))
  | read (device : DeviceId) (wireIds : List UInt32)
      (answer : Except ClientError (List Wire.Entry))

/-- A client with the record of the calls made to it. -/
structure RecordedClient (Connection : Type) where
  connection : Connection
  calls : List ClientCall

instance {Connection : Type} [Client Connection] : Client (RecordedClient Connection) where
  write client device entries :=
    let answered := Client.write client.connection device entries
    (answered.1, ⟨answered.2, client.calls ++ [.write device entries answered.1]⟩)
  read client device wireIds :=
    let answered := Client.read client.connection device wireIds
    (answered.1, ⟨answered.2, client.calls ++ [.read device wireIds answered.1]⟩)

theorem RecordedClient.calls_of_read {Connection : Type} [Client Connection]
    {client after : RecordedClient Connection} {device : DeviceId} {wireIds : List UInt32}
    {answer : Except ClientError (List Wire.Entry)}
    (answered : Client.read client device wireIds = (answer, after)) :
    after.calls = client.calls ++ [.read device wireIds answer] := by
  cases answered
  rfl

end MeterSync
