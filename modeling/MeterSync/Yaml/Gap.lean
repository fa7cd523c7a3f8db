/-!
# Gaps

What stands between two words of a scalar that may run over several lines. Blanks within a line
are kept, a single line end becomes a space, and of several line ends the first one is dropped.
-/

set_option autoImplicit false

namespace MeterSync.Yaml

/-- A gap: blanks within a line; line ends, with the blanks around them forgotten; or line ends of
which the first one was escaped and does not count. -/
inductive Gap where
  | blanks (chars : List Char)
  | broken (first : Char) (others : List Char)
  | joined (others : List Char)
deriving DecidableEq, Repr

namespace Gap

def none : Gap :=
  .blanks []

/-- The gap goes over the end of a line. -/
def isBroken : Gap → Bool
  | .blanks _ => false
  | .broken .. => true
  | .joined _ => true

/-- The gap with one more blank at its end. -/
def addBlank (gap : Gap) (c : Char) : Gap :=
  match gap with
  | .blanks chars => .blanks (chars ++ [c])
  | .broken first others => .broken first others
  | .joined others => .joined others

def addBreak (gap : Gap) (c : Char) : Gap :=
  match gap with
  | .blanks _ => .broken c []
  | .broken first others => .broken first (others ++ [c])
  | .joined others => .joined (others ++ [c])

/-- What a gap stands for. A first line end that is no plain one is kept. -/
def fold : Gap → List Char
  | .blanks chars => chars
  | .broken '\n' [] => [' ']
  | .broken '\n' others => others
  | .broken first others => first :: others
  | .joined others => others

end Gap

end MeterSync.Yaml
