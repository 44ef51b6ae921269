namespace TemplateFile
namespace Elapsed

/-!
# Elapsed times

An elapsed time is shown in the largest unit that it fills, with all the
decimals it has and none that are zero at the end.
-/

/-- The decimals of a fraction with a given number of places, without the zeros
at the end. -/
def decimals (places fraction : Nat) : String :=
  let digits := Nat.toDigits 10 fraction
  let padded := List.replicate (places - digits.length) '0' ++ digits
  let shown := (padded.reverse.dropWhile fun digit => digit == '0').reverse
  if shown.isEmpty then "" else "." ++ String.ofList shown

/-- A number of nanoseconds in a unit of `size` nanoseconds, which has as many
zeros as the fraction has `places`. -/
def inUnit (nanoseconds size places : Nat) (unit : String) : String :=
  toString (nanoseconds / size) ++ decimals places (nanoseconds % size) ++ unit

/-- The written form of a number of nanoseconds. -/
def text (nanoseconds : Nat) : String :=
  if 1000000000 ≤ nanoseconds then inUnit nanoseconds 1000000000 9 "s"
  else if 1000000 ≤ nanoseconds then inUnit nanoseconds 1000000 6 "ms"
  else if 1000 ≤ nanoseconds then inUnit nanoseconds 1000 3 "µs"
  else inUnit nanoseconds 1 0 "ns"

end Elapsed
end TemplateFile
