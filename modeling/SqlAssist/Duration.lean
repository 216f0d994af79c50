/-
# Lengths of time

A duration is a whole number of nanoseconds. It is written in the largest of the units `s`,
`ms`, `µs` and `ns` in which it is at least one, as an exact decimal that ends in no zero after
the point.
-/

namespace SqlAssist

/-- A length of time. -/
structure Duration where
  nanoseconds : Nat
  deriving DecidableEq, Repr

namespace Duration

/-- A duration of whole milliseconds. -/
def ofMilliseconds (milliseconds : Nat) : Duration :=
  ⟨milliseconds * 1000000⟩

/-- A unit of time: its name, its length in nanoseconds, and the number of decimal places that
count nanoseconds in it. -/
structure TimeUnit where
  name : String
  length : Nat
  places : Nat
  deriving DecidableEq, Repr

/-- The units above the nanosecond, the largest first. -/
def largerUnits : List TimeUnit :=
  [⟨"s", 1000000000, 9⟩, ⟨"ms", 1000000, 6⟩, ⟨"µs", 1000, 3⟩]

/-- The digits of `value` after the point: padded on the left to `places`, zeros at the end
dropped. -/
def fractionDigits (places value : Nat) : List Char :=
  let digits := Nat.toDigits 10 value
  let padded := List.replicate (places - digits.length) '0' ++ digits
  (padded.reverse.dropWhile (· == '0')).reverse

/-- A number of nanoseconds as an exact decimal in a unit. -/
def TimeUnit.write (unit : TimeUnit) (nanoseconds : Nat) : String :=
  let whole := Nat.toDigits 10 (nanoseconds / unit.length)
  let digits :=
    match fractionDigits unit.places (nanoseconds % unit.length) with
    | [] => whole
    | fraction => whole ++ '.' :: fraction
  String.ofList digits ++ unit.name

/-- The text of a duration in its largest fitting unit. -/
def render (d : Duration) : String :=
  ((largerUnits.find? (·.length ≤ d.nanoseconds)).getD ⟨"ns", 1, 0⟩).write d.nanoseconds

end Duration

end SqlAssist
