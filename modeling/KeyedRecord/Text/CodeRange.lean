/-
**Sets and maps of code points, written as ranges.**

The tables of the Unicode character database are long but regular. A set of code points is a list
of closed ranges (`CodeRanges.contains`); a map of code points is a list of runs, each of which
moves code points that lie a fixed step apart by a fixed distance (`CaseRun.map?`).
-/

namespace KeyedRecord.Text

/-- A set of code points, as closed ranges. -/
abbrev CodeRanges := List (Nat × Nat)

/-- Whether one of the ranges holds the code point. -/
def CodeRanges.contains (ranges : CodeRanges) (c : Char) : Bool :=
  ranges.any fun range => range.1 ≤ c.toNat && c.toNat ≤ range.2

/-- Code points from `first` to `last`, `step` apart, each moved by `distance`. -/
structure CaseRun where
  first : Nat
  last : Nat
  step : Nat
  distance : Int

/-- The image of a code point that the run holds. -/
def CaseRun.map? (run : CaseRun) (c : Char) : Option Char :=
  if run.first ≤ c.toNat && c.toNat ≤ run.last && (c.toNat - run.first) % run.step == 0 then
    some (Char.ofNat (c.toNat + run.distance).toNat)
  else
    none

end KeyedRecord.Text
