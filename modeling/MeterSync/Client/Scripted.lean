import MeterSync.Simulator

/-!
# Scripted clients

A client whose next answers can be laid down in advance. Without a prepared answer it passes the
call on to its simulator. It keeps a record of everything that was to be written.
-/

set_option autoImplicit false

namespace MeterSync

/-- Prepared answers, the oldest first, in front of a simulator. -/
structure ScriptedClient where
  simulator : Simulator
  sent : List (DeviceId × List Wire.Entry)
  writeAnswers : List (Except ClientError (List WriteStatus))
  readAnswers : List (Except ClientError (List Wire.Entry))

namespace ScriptedClient

def ofSimulator (simulator : Simulator) : ScriptedClient :=
  ⟨simulator, [], [], []⟩

def write (client : ScriptedClient) (device : DeviceId) (entries : List Wire.Entry) :
    Except ClientError (List WriteStatus) × ScriptedClient :=
  let client := { client with sent := client.sent ++ [(device, entries)] }
  match client.writeAnswers with
  | answer :: later => (answer, { client with writeAnswers := later })
  | [] =>
    let answered := client.simulator.write device entries
    (answered.1, { client with simulator := answered.2 })

def read (client : ScriptedClient) (device : DeviceId) (wireIds : List UInt32) :
    Except ClientError (List Wire.Entry) × ScriptedClient :=
  match client.readAnswers with
  | answer :: later => (answer, { client with readAnswers := later })
  | [] =>
    let answered := client.simulator.read device wireIds
    (answered.1, { client with simulator := answered.2 })

instance : Client ScriptedClient where
  write := ScriptedClient.write
  read := ScriptedClient.read

end ScriptedClient

end MeterSync
