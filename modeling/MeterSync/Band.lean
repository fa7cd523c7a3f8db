/-!
# Bands

A band is a rate with a burst size. The two bands of a cell are told apart by their order alone:
the lesser one is committed and the greater one is the peak.
-/

set_option autoImplicit false

namespace MeterSync

/-- A rate and a burst size, both in the native unit of the meter. -/
structure Band where
  rate : UInt64
  burst : UInt64
deriving DecidableEq, Repr

namespace Band

/-- A band is at most another when its rate is lower, or the rates agree and its burst is not
greater. -/
def AtMost (first second : Band) : Prop :=
  first.rate < second.rate ∨ (first.rate = second.rate ∧ first.burst ≤ second.burst)

instance (first second : Band) : Decidable (AtMost first second) :=
  inferInstanceAs (Decidable (_ ∨ _))

/-- Two bands as committed and peak: the lesser one comes first, whichever was given first. -/
def order (first second : Band) : Band × Band :=
  if second.AtMost first then (second, first) else (first, second)

/-- A band reads as its rate and its burst. -/
def describe (band : Band) : String :=
  s!"rate={band.rate.toNat} burst={band.burst.toNat}"

end Band

end MeterSync
