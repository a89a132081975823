/-!
# Line breaks

Text with one way to end a line.
-/

namespace TableAssembler
namespace Text

/-- Every way to end a line with a carriage return becomes a line feed. -/
def unifyBreaks : List Char → List Char
  | '\r' :: '\n' :: rest => '\n' :: unifyBreaks rest
  | '\r' :: rest => '\n' :: unifyBreaks rest
  | c :: rest => c :: unifyBreaks rest
  | [] => []

end Text
end TableAssembler
