import RuleGraph.Text.Blank

namespace RuleGraph.Text

mutual

/-- Reads outside of a comment. `held` are the blanks read last, newest first: they stay unless a
    comment follows. -/
def stripFrom (held : List Char) : List Char → List Char
  | [] => held.reverse
  | c :: s =>
    if c = '#' then stripComment s
    else if isBlank c then stripFrom (c :: held) s
    else held.reverse ++ c :: stripFrom [] s

/-- Reads inside a comment, up to the line feed that ends it. The line feed itself is a blank that
    stays unless another comment follows. -/
def stripComment : List Char → List Char
  | [] => []
  | c :: s => if c = '\n' then stripFrom ['\n'] s else stripComment s

end

/-- A regular expression in free-spacing layout without its comments. A comment starts at a `#`,
    wherever that stands, and runs to the end of its line; the blanks before it, which may reach
    over several lines, go with it. -/
def stripComments (s : String) : String :=
  String.ofList (stripFrom [] s.toList)

@[simp] theorem toList_stripComments (s : String) :
    (stripComments s).toList = stripFrom [] s.toList := by
  simp [stripComments]

end RuleGraph.Text
