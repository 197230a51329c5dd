/-!
Sets of characters given as ascending lists of closed code point ranges.
-/

namespace ApiClient

def inRanges (ranges : List (Nat × Nat)) (c : Char) : Bool :=
  ranges.any fun r => r.1 ≤ c.toNat && c.toNat ≤ r.2

end ApiClient
