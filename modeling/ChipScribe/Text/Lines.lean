/-!
Lines of text.  Written, every line ends in a line feed.  Read back, one carriage
return before a line feed belongs to the end of its line, and what follows the
last line feed is a line unless it is empty.
-/

namespace ChipScribe.Text

def ofLines (lines : List String) : String :=
  String.join (lines.map (· ++ "\n"))

/-- A line that is given last character first. -/
def ended : List Char → String
  | [] => ""
  | c :: line =>
      if c = '\r' then String.ofList line.reverse else String.ofList (c :: line).reverse

/-- The lines of a text, the first of them begun with `line`. -/
def linesFrom (line : List Char) : List Char → List String
  | [] => if line.isEmpty then [] else [String.ofList line.reverse]
  | c :: rest =>
      if c = '\n' then ended line :: linesFrom [] rest else linesFrom (c :: line) rest

def lines (s : String) : List String :=
  linesFrom [] s.toList

end ChipScribe.Text
