/-!
# Lines of text

The first line of a text. A carriage return in front of the line feed belongs to the end of the line.
-/

namespace PacedRtp
namespace Text

def firstLineChars : List Char → List Char
  | [] => []
  | '\n' :: _ => []
  | '\r' :: '\n' :: _ => []
  | c :: rest => c :: firstLineChars rest

def firstLine (s : String) : String :=
  String.ofList (firstLineChars s.toList)

end Text
end PacedRtp
