import PacedRtp.Text.Numeral
import PacedRtp.Text.Quoted

/-!
# Source identifiers in text

A source identifier is a 32-bit number, in decimal, or in hexadecimal behind a zero and an `x` of
either case.
-/

namespace PacedRtp
namespace Text
namespace Ssrc

structure ParseError where
  text : String
  cause : NumeralError
  deriving DecidableEq, Repr

def ParseError.message (e : ParseError) : String :=
  "invalid SSRC " ++ quoted e.text ++ ": " ++ e.cause.message

def largest : Nat := UInt32.size - 1

def readChars : List Char → Except NumeralError Nat
  | '0' :: 'x' :: digits => readNat 16 largest digits
  | '0' :: 'X' :: digits => readNat 16 largest digits
  | cs => readNat 10 largest cs

def parse (s : String) : Except ParseError UInt32 :=
  match readChars s.toList with
  | .ok n => .ok (.ofNat n)
  | .error cause => .error ⟨s, cause⟩

end Ssrc
end Text
end PacedRtp
