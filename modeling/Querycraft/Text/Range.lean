/-
  Querycraft.Text.Range — sets of characters as ranges of code points.

  A property of characters is a list of ranges. A strided range takes every code point
  or every second one, which is how capitals and small letters alternate in most
  scripts.
-/

namespace Querycraft.Text

def inRanges (ranges : List (Nat × Nat)) (c : Char) : Bool :=
  ranges.any fun (first, last) => first ≤ c.toNat && c.toNat ≤ last

def inStride (first last step : Nat) (c : Char) : Bool :=
  first ≤ c.toNat && c.toNat ≤ last && (c.toNat - first) % step == 0

def inStrides (ranges : List (Nat × Nat × Nat)) (c : Char) : Bool :=
  ranges.any fun (first, last, step) => inStride first last step c

end Querycraft.Text
