/-!
This module contains the search in sorted ranges of code points.
-/

namespace CallWire

namespace Text

/--
Whether a sorted array of ranges covers `n`, looking between `low` and `low + count`. Each step
halves the part that is left.
-/
def covers (ranges : Array (Nat × Nat)) (n : Nat) : (steps low count : Nat) → Bool
  | 0, _, _ => false
  | steps + 1, low, count =>
    match ranges[low + count / 2]? with
    | none => false
    | some (first, last) =>
      if n < first then covers ranges n steps low (count / 2)
      else if last < n then covers ranges n steps (low + count / 2 + 1) (count - count / 2 - 1)
      else true

end Text
end CallWire
