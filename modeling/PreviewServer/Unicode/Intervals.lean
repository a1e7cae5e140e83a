/-!
# Intervals of characters

A property of characters is given by the intervals of code points in which it holds.
-/

namespace PreviewServer.Unicode

/-- Whether a code point lies in one of the intervals. -/
def inIntervals (n : Nat) (intervals : List (Nat × Nat)) : Bool :=
  intervals.any fun i => i.1 ≤ n && n ≤ i.2

end PreviewServer.Unicode
