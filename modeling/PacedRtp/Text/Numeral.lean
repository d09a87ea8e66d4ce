/-!
# Numerals

Reading a bounded integer from text. The digits are read from the left and the first problem met
decides: a character that is no digit of the radix, or a value past the bound. One leading plus
sign is allowed, and a minus sign where negative values are.
-/

namespace PacedRtp
namespace Text

inductive NumeralError
  | empty
  | invalidDigit
  | tooLarge
  | tooSmall
  deriving DecidableEq, Repr

def NumeralError.message : NumeralError → String
  | .empty => "cannot parse integer from empty string"
  | .invalidDigit => "invalid digit found in string"
  | .tooLarge => "number too large to fit in target type"
  | .tooSmall => "number too small to fit in target type"

/-! ## Digits -/

/-- The value of a digit; letters of either case stand for ten and on. -/
def digitValue? (radix : Nat) (c : Char) : Option Nat :=
  let v :=
    if '0' ≤ c ∧ c ≤ '9' then c.toNat - '0'.toNat
    else if 'a' ≤ c ∧ c ≤ 'z' then c.toNat - 'a'.toNat + 10
    else if 'A' ≤ c ∧ c ≤ 'Z' then c.toNat - 'A'.toNat + 10
    else radix
  if v < radix then some v else none

/-- Continues the number `n` with further digits, up to the largest value `most`. -/
def readDigits (radix most : Nat) : Nat → List Char → Except NumeralError Nat
  | n, [] => .ok n
  | n, c :: cs =>
    match digitValue? radix c with
    | none => .error .invalidDigit
    | some v =>
      let n := n * radix + v
      if n ≤ most then readDigits radix most n cs else .error .tooLarge

/-! ## Whole numerals -/

/-- A number from zero to `most`. -/
def readNat (radix most : Nat) : List Char → Except NumeralError Nat
  | [] => .error .empty
  | ['+'] => .error .invalidDigit
  | '+' :: cs => readDigits radix most 0 cs
  | cs => readDigits radix most 0 cs

/-- A decimal number from `-(most + 1)` to `most`. -/
def readInt (most : Nat) : List Char → Except NumeralError Int
  | ['-'] => .error .invalidDigit
  | '-' :: cs =>
    match readDigits 10 (most + 1) 0 cs with
    | .ok n => .ok (-(n : Int))
    | .error .tooLarge => .error .tooSmall
    | .error e => .error e
  | cs => (readNat 10 most cs).map Int.ofNat

end Text
end PacedRtp
