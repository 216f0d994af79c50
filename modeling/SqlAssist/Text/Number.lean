/-
# Reading natural numbers

A number of a given size is written in decimal digits, with an optional plus sign. Reading goes
from left to right and stops at the first character that rules the text out, so a text with two
faults is refused for the one that comes first.
-/

namespace SqlAssist.Text

/-- Why a text is no number of the expected size. -/
inductive NumberError where
  | empty
  | invalidDigit
  /-- The digits read so far are worth more than the size admits. -/
  | tooLarge
  deriving DecidableEq, Repr

/-- What a reader is told. -/
def NumberError.message : NumberError → String
  | empty => "cannot parse integer from empty string"
  | invalidDigit => "invalid digit found in string"
  | tooLarge => "number too large to fit in target type"

/-- Go on reading decimal digits when those before them are worth `value`. -/
def readDigits (bits value : Nat) : List Char → Except NumberError Nat
  | [] => .ok value
  | c :: rest =>
    if c.isDigit then
      let next := value * 10 + (c.toNat - '0'.toNat)
      if next < 2 ^ bits then readDigits bits next rest else .error .tooLarge
    else .error .invalidDigit

/-- Read a natural number below `2 ^ bits`. A sign alone is no number. -/
def readNumber (bits : Nat) (text : String) : Except NumberError Nat :=
  match text.toList with
  | [] => .error .empty
  | ['+'] => .error .invalidDigit
  | '+' :: digits => readDigits bits 0 digits
  | digits => readDigits bits 0 digits

end SqlAssist.Text
