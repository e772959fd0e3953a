import FacetedSearch.Text.Blank
import FacetedSearch.Text.DecimalDigit
import FacetedSearch.Text.Pattern

/-!
Contract: the written form of ranges.

Owns:
- the patterns of the two kinds of bounds, dates and numbers;
- `RangeSyntax.split?`, which cuts a range into its bounds: two bounds around a separator, blanks
  allowed around each, nothing before and nothing after. Each bound is the wildcard, a date or a
  number, tried in this order, and the first way to read the whole text counts.

Digits of any script count as digits here.

Does not own: the values of bounds.
-/

namespace FacetedSearch

open Text

namespace Text.Pattern

def digit : Pattern :=
  .one isDecimalDigit

/-- One or two decimal digits, two preferred. -/
def oneOrTwoDigits : Pattern :=
  .sequence digit (optional digit)

def twoDigits : Pattern :=
  .sequence digit digit

def blanks : Pattern :=
  .many isBlank

/-- A universal-time mark or a numeric offset. -/
def offset : Pattern :=
  .choice (char 'Z')
    (inOrder [.one fun c => c == '+' || c == '-', twoDigits, optional (char ':'), twoDigits])

/-- Seconds with an optional fraction. -/
def seconds : Pattern :=
  inOrder [char ':', twoDigits, optional (.sequence (char '.') (oneOrMore isDecimalDigit))]

/-- A time of day with an optional offset, after its mark. -/
def timeOfDay : Pattern :=
  inOrder
    [.one fun c => c == 'T' || c == ' ', oneOrTwoDigits, char ':', twoDigits, optional seconds,
     optional offset]

/-- A date from the month on: year, month, and optionally a day and a time of day. -/
def dateBound : Pattern :=
  inOrder
    [twoDigits, twoDigits, char '-', oneOrTwoDigits,
     optional (inOrder [char '-', oneOrTwoDigits, optional timeOfDay])]

/-- A decimal number with an optional sign, fraction and exponent. -/
def numberBound : Pattern :=
  inOrder
    [optional (char '-'), oneOrMore isDecimalDigit,
     optional (.sequence (char '.') (oneOrMore isDecimalDigit)),
     optional
       (inOrder
         [.one fun c => c == 'e' || c == 'E', optional (.one fun c => c == '+' || c == '-'),
          oneOrMore isDecimalDigit])]

end Text.Pattern

/-- The two texts that ranges are written with. -/
structure RangeSyntax where
  wildcard : String
  separator : String
deriving DecidableEq, Repr

namespace RangeSyntax

def bound (rangeSyntax : RangeSyntax) : Pattern :=
  .choice (.literal rangeSyntax.wildcard.toList) (.choice .dateBound .numberBound)

def middle (rangeSyntax : RangeSyntax) : Pattern :=
  .inOrder [.blanks, .literal rangeSyntax.separator.toList, .blanks]

/-- The beginning of a text before one of its ends. -/
def before (text rest : List Char) : List Char :=
  text.take (text.length - rest.length)

/-- Every way to read a text as a range, in order of preference. -/
def splits (rangeSyntax : RangeSyntax) (raw : List Char) : List (List Char × List Char) :=
  (Pattern.blanks.remainders raw).flatMap fun lower =>
    (rangeSyntax.bound.remainders lower).flatMap fun afterLower =>
      (rangeSyntax.middle.remainders afterLower).flatMap fun upper =>
        (rangeSyntax.bound.remainders upper).filterMap fun afterUpper =>
          if (Pattern.blanks.remainders afterUpper).contains [] then
            some (before lower afterLower, before upper afterUpper)
          else none

def split? (rangeSyntax : RangeSyntax) (raw : String) : Option (String × String) :=
  (rangeSyntax.splits raw.toList).head?.map fun bounds =>
    (String.ofList bounds.1, String.ofList bounds.2)

def isRange (rangeSyntax : RangeSyntax) (raw : String) : Bool :=
  (rangeSyntax.split? raw).isSome

end RangeSyntax

end FacetedSearch
