/-!
# Line ends

A file read as text has one line end: a carriage return, alone or before a line
feed, is read as a line feed.  A text is also cut into lines, each of which
keeps its line feed.
-/

namespace TapeMachine
namespace Text

def unifyNewlines : List Char -> List Char
  | [] => []
  | '\r' :: '\n' :: rest => '\n' :: unifyNewlines rest
  | '\r' :: rest => '\n' :: unifyNewlines rest
  | c :: rest => c :: unifyNewlines rest

/-- The first line of a text, with its line feed, and the text after it. -/
def cutLine : List Char -> List Char × List Char
  | [] => ([], [])
  | c :: rest =>
      if c == '\n' then
        ([c], rest)
      else
        let (line, after) := cutLine rest
        (c :: line, after)

end Text
end TapeMachine
