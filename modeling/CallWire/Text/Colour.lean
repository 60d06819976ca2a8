/-!
This module contains coloured text for terminals.
-/

namespace CallWire

inductive Colour where
  | red
  | green
  | cyan
  deriving DecidableEq, Repr, Inhabited

namespace Colour

def start : Colour → String
  | .red => "\x1b[31m"
  | .green => "\x1b[32m"
  | .cyan => "\x1b[36m"

def reset : String := "\x1b[0m"

def paint (c : Colour) (coloured : Bool) (s : String) : String :=
  if coloured then c.start ++ s.replace reset (reset ++ c.start) ++ reset else s

end Colour
end CallWire
