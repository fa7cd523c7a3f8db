import MeterSync.Agent

/-!
# The program

Reads the configuration file, prints what the agent has to say, and lets a daemon go on.
-/

set_option autoImplicit false

namespace MeterSync

/-- The contents of a file, if it can be read. -/
def contentsOf (path : String) : IO (Option String) :=
  try
    return some (← IO.FS.readFile path)
  catch _ =>
    return none

partial def serve (daemon : Daemon) : IO Unit := do
  let daemon := daemon.reconcileOnce.2
  IO.sleep (UInt32.ofNat (min daemon.interval.toNat (UInt32.size - 1)))
  serve daemon

end MeterSync

open MeterSync in
def main (arguments : List String) : IO UInt32 := do
  let request := CommandLine.read arguments
  if let .error error := request then
    IO.eprintln s!"error: {error.message}"
  let contents ←
    match Agent.path? request with
    | none => pure none
    | some path => contentsOf path
  match Agent.execute request contents with
  | .exit code output =>
    IO.print output
    return UInt32.ofNat code
  | .serve daemon =>
    serve daemon
    return 0
