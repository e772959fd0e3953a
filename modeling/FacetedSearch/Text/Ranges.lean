/-!
Contract: membership of a character in a list of closed code point ranges.

Owns: the range test that the property tables of this folder are read with.
Does not own: any table.
-/

namespace FacetedSearch.Text

/-- Closed ranges of code points, first and last included. -/
abbrev Ranges := List (Nat × Nat)

def Ranges.contains (ranges : Ranges) (c : Char) : Bool :=
  ranges.any fun range => range.1 ≤ c.toNat && c.toNat ≤ range.2

end FacetedSearch.Text
