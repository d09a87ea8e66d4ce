import PacedRtp.Text.Glyphs

/-!
# Quoted text

A text inside double quotes, with the characters that would not show as themselves escaped: the
quote and the backslash behind a backslash, NUL, tab, carriage return and line feed by a letter,
and every other unprintable or extending character by its code point in braces.
-/

namespace PacedRtp
namespace Text

def escapeChar (c : Char) : List Char :=
  if c = '\x00' then ['\\', '0']
  else if c = '\t' then ['\\', 't']
  else if c = '\r' then ['\\', 'r']
  else if c = '\n' then ['\\', 'n']
  else if c = '\\' || c = '"' then ['\\', c]
  else if isExtending c || !isPrintable c then
    ['\\', 'u', '\x7b'] ++ Nat.toDigits 16 c.toNat ++ ['\x7d']
  else [c]

def quoted (s : String) : String :=
  String.ofList (['"'] ++ s.toList.flatMap escapeChar ++ ['"'])

end Text
end PacedRtp
