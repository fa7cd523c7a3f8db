import MeterSync.Configuration
import MeterSync.Form.Pipeline
import MeterSync.Yaml.Reading

/-!
# Forms of configurations

A configuration is written as YAML. Everything in it has a default but the devices themselves, and
its rules are looked at once it is read as a whole.
-/

set_option autoImplicit false

namespace MeterSync

open Document

variable {Δ : Type} {Reading : Type → Type} [Monad Reading] [MonadLiftT Option Reading]
  [Document Δ Reading]

def ConfiguredOperation.read? (document : Δ) : Reading ConfiguredOperation := do
  let record ← record? ["op", "meter_id", "index", "bands", "unit"] document
  let kind ← required? record "op" Keyword.read?
  let meter ← required? record "meter_id" MeterId.read?
  let index ← required? record "index" whole?
  let bands ← optional? record "bands" [] (list? MeterBand.read?)
  let unit ← optional? record "unit" none (nullable? Keyword.read?)
  return ⟨kind, ⟨meter, index⟩, bands, unit⟩

def ConfiguredDevice.read? (document : Δ) : Reading ConfiguredDevice := do
  let record ← record? ["id", "pipeline", "operations"] document
  let device ← required? record "id" DeviceId.read?
  let pipeline ← required? record "pipeline" Pipeline.read?
  let operations ← optional? record "operations" [] (list? ConfiguredOperation.read?)
  return ⟨device, pipeline, operations⟩

/-- A configuration, whether or not it keeps the rules. -/
def Configuration.read? (document : Δ) : Reading Configuration := do
  let record ← record? ["lock_stripes", "reconcile_interval_ms", "devices"] document
  let lockStripes ← optional? record "lock_stripes" LockPool.defaultStripes whole?
  let interval ← optional? record "reconcile_interval_ms" defaultInterval whole?
  let devices ← optional? record "devices" [] (list? ConfiguredDevice.read?)
  return ⟨lockStripes, interval, devices⟩

/-- Why a text is no configuration: it cannot be read as one, or it breaks a rule. -/
inductive ConfigurationError where
  | unreadable
  | invalid (fault : ConfigurationFault)
deriving DecidableEq, Repr

def Configuration.checked (configuration : Configuration) :
    Except ConfigurationError Configuration :=
  match configuration.fault? with
  | some fault => .error (.invalid fault)
  | none => .ok configuration

/-- What a configuration comes to that may not have been readable. -/
def Configuration.ofRead (read : Option Configuration) :
    Except ConfigurationError Configuration :=
  match read with
  | none => .error .unreadable
  | some configuration => configuration.checked

def Configuration.ofJson (value : Json) : Except ConfigurationError Configuration :=
  Configuration.ofRead (Configuration.read? value)

def Configuration.ofYaml (text : String) : Except ConfigurationError Configuration :=
  Configuration.ofRead ((Yaml.Node.parse text).bind (Yaml.Reading.run Configuration.read?))

end MeterSync
