import RuleGraph.Entries

namespace RuleGraph

/-- A rule of a grammar, a tree since it may hold rules of its own. All parts are optional and
    independent of each other. -/
structure Rule where
  /-- The name or scope that the rule includes, with a leading `#` for a repository rule. -/
  inclusion : Option String := none
  /-- The rules nested in this one. -/
  patterns : Option (List Rule) := none
  /-- The regular expression of a rule that matches within one line. -/
  regex : Option String := none
  /-- The regular expression at which a surrounding rule begins. -/
  opening : Option String := none
  /-- The regular expression at which a surrounding rule ends. -/
  closing : Option String := none
  deriving Repr, BEq, Inhabited

namespace Rule

/-- A rule that includes another one. -/
def including (target : String) : Rule :=
  { inclusion := some target }

/-- A rule that only holds other rules. -/
def container (patterns : List Rule) : Rule :=
  { patterns := some patterns }

/-- A rule with a regular expression. -/
def matching (regex : String) : Rule :=
  { regex := some regex }

/-- A rule with a pair of regular expressions, for where it begins and where it ends. -/
def surrounding (opening closing : String) : Rule :=
  { opening := some opening, closing := some closing }

/-- The pair of regular expressions of a rule that has both. One of them alone surrounds
    nothing. -/
def surround? (rule : Rule) : Option (String × String) :=
  match rule.opening, rule.closing with
  | some opening, some closing => some (opening, closing)
  | _, _ => none

end Rule

/-- The named rules of a grammar, in the order in which their names were given first. -/
structure Repository where
  /-- The names and their rules. -/
  rules : List (String × Rule) := []
  /-- No name occurs twice. -/
  nodup : (entryNames rules).Nodup := by simp [entryNames]

namespace Repository

/-- A repository without rules. -/
def empty : Repository := {}

/-- Sets the rule of a name. A name that is there already keeps its place. -/
def set (repository : Repository) (name : String) (rule : Rule) : Repository where
  rules := setEntry name rule repository.rules
  nodup := nodup_setEntry name rule repository.nodup

/-- The repository made of the given rules, set in order. -/
def ofList (rules : List (String × Rule)) : Repository :=
  rules.foldl (fun repository (name, rule) => repository.set name rule) empty

end Repository

/-- A TextMate grammar, as far as one rule refers to another: a list of top-level rules and a
    repository of named rules. -/
structure Grammar where
  /-- The scope that the grammar gives to a whole text. -/
  scopeName : Option String := none
  /-- The name shown to people. -/
  name : Option String := none
  /-- The top-level rules. -/
  patterns : List Rule
  /-- The named rules, if the grammar has a repository at all. -/
  repository : Option Repository := none

namespace Grammar

/-- The grammar with a further named rule. -/
def withRule (grammar : Grammar) (name : String) (rule : Rule) : Grammar :=
  { grammar with repository := some ((grammar.repository.getD .empty).set name rule) }

/-- The named rules in order, none if there is no repository. -/
def namedRules (grammar : Grammar) : List (String × Rule) :=
  match grammar.repository with
  | some repository => repository.rules
  | none => []

end Grammar

end RuleGraph
