namespace RuleGraph.Text

/-- Puts `image` in the place of every occurrence of `c`. -/
def substitute (c : Char) (image s : List Char) : List Char :=
  s.flatMap fun d => if d = c then image else [d]

/-- Backslashes are doubled first, so that the backslash which is then put before a quote is not
    doubled itself. -/
def escapeChars (s : List Char) : List Char :=
  substitute '"' ['\\', '"'] (substitute '\\' ['\\', '\\'] s)

/-- The text with a backslash before every backslash and every double quote, and everything else as
    it is, so that it can stand between double quotes. -/
def escape (s : String) : String :=
  String.ofList (escapeChars s.toList)

/-- What stands for one character after escaping. -/
def escapeChar (c : Char) : List Char :=
  if c = '\\' ∨ c = '"' then ['\\', c] else [c]

@[simp] theorem substitute_nil (c : Char) (image : List Char) : substitute c image [] = [] := rfl

theorem substitute_cons (c : Char) (image : List Char) (d : Char) (s : List Char) :
    substitute c image (d :: s) = (if d = c then image else [d]) ++ substitute c image s := rfl

/-- Substitution goes character by character, so it passes through concatenation. -/
theorem substitute_append (c : Char) (image s t : List Char) :
    substitute c image (s ++ t) = substitute c image s ++ substitute c image t := by
  simp [substitute]

@[simp] theorem escapeChars_nil : escapeChars [] = [] := rfl

@[simp] theorem toList_escape (s : String) : (escape s).toList = escapeChars s.toList := by
  simp [escape]

end RuleGraph.Text
