/-!
# Log formats

How a log is written: one object a line, or laid out for reading.
-/

set_option autoImplicit false

namespace MeterSync

inductive LogFormat where
  | json
  | pretty
deriving DecidableEq, Repr

namespace LogFormat

def ofFlag (json : Bool) : LogFormat :=
  if json then .json else .pretty

def word : LogFormat → String
  | .json => "Json"
  | .pretty => "Pretty"

end LogFormat

end MeterSync
