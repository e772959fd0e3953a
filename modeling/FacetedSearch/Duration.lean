/-!
Contract: lengths of time.

Owns: `Duration`, in nanoseconds, and its text in the largest unit of seconds, milliseconds,
microseconds and nanoseconds that is not longer than it.
Does not own: clocks.
-/

namespace FacetedSearch

/-- A length of time. -/
structure Duration where
  nanoseconds : Nat
deriving DecidableEq, Repr

namespace Duration

def ofMilliseconds (milliseconds : Nat) : Duration :=
  ⟨milliseconds * 1000000⟩

def ofMicroseconds (microseconds : Nat) : Duration :=
  ⟨microseconds * 1000⟩

/-- The part of a length after the point, in the given number of places, without zeros at its
end. -/
def fractionText (places part : Nat) : String :=
  let digits := Nat.toDigits 10 part
  let all := List.replicate (places - digits.length) '0' ++ digits
  let kept := (all.reverse.dropWhile fun c => c == '0').reverse
  if kept.isEmpty then "" else String.ofList ('.' :: kept)

/-- The length in the largest unit that is not longer than it. -/
def text (duration : Duration) : String :=
  let value := duration.nanoseconds
  if value ≥ 1000000000 then
    toString (value / 1000000000) ++ fractionText 9 (value % 1000000000) ++ "s"
  else if value ≥ 1000000 then
    toString (value / 1000000) ++ fractionText 6 (value % 1000000) ++ "ms"
  else if value ≥ 1000 then
    toString (value / 1000) ++ fractionText 3 (value % 1000) ++ "µs"
  else toString value ++ "ns"

end Duration

end FacetedSearch
