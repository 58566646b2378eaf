/-!
# Sets of characters given by ranges

A property of characters is written down as the increasing list of code
points at which it starts to hold, stops holding, starts again, and so on.
-/

namespace ReservationLoad.Text

/-- A set of code points, by the ascending list of its edges. -/
structure CodeRanges where
  edges : List Nat

namespace CodeRanges

/-- Membership after `inside`, the state in front of the listed edges. -/
def containsFrom (inside : Bool) (code : Nat) : List Nat → Bool
  | [] => inside
  | edge :: later =>
    if code < edge then inside else containsFrom (!inside) code later

/-- A code point is a member when an odd number of edges lie at or below
it. -/
def contains (ranges : CodeRanges) (c : Char) : Bool :=
  containsFrom false c.toNat ranges.edges

end CodeRanges

end ReservationLoad.Text
