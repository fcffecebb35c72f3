namespace RuleGraph

/-- How a reference was found. -/
inductive Relation where
  /-- By the inclusion of another rule. -/
  | inclusion
  /-- By a regular expression that matches within one line. -/
  | matching
  /-- By a pair of regular expressions for beginning and end. -/
  | surround
  /-- From the node of such a pair to the expression at the beginning. -/
  | opening
  /-- From the node of such a pair to the expression at the end. -/
  | closing
  deriving Repr, DecidableEq

namespace Relation

/-- The text on an edge that stands for the relation. -/
def label : Relation → String
  | .inclusion => "include"
  | .matching => "match"
  | .surround => "surround"
  | .opening => "begin"
  | .closing => "end"

/-- The relations that come from regular expressions of a rule. The two ends of a surround node
    are not among them: they belong to the node and not to the rule. -/
def fromRegex : Relation → Bool
  | .matching | .surround => true
  | .inclusion | .opening | .closing => false

end Relation

/-- What a rule points to, and how the reference was found. -/
inductive Reference where
  /-- The rule includes `name`. -/
  | inclusion (name : String)
  /-- The rule matches `regex`. -/
  | matching (regex : String)
  /-- The rule begins and ends with a pair of regular expressions, which hang on a node of their
      own. -/
  | surround (node opening closing : String)
  deriving Repr, DecidableEq

namespace Reference

/-- The reference of an inclusion. A repository rule is written with a `#` before its name, and
    one such mark is taken away. -/
def ofInclusion (target : String) : Reference :=
  match target.toList with
  | '#' :: name => .inclusion (String.ofList name)
  | _ => .inclusion target

/-- What the reference points to, as written in the grammar. -/
def referenced : Reference → String
  | .inclusion name => name
  | .matching regex => regex
  | .surround node _ _ => node

/-- How the reference was found. -/
def relation : Reference → Relation
  | .inclusion _ => .inclusion
  | .matching _ => .matching
  | .surround _ _ _ => .surround

/-- The regular expressions that hang on the reference's own node. -/
def ends : Reference → List (Relation × String)
  | .surround _ opening closing => [(.opening, opening), (.closing, closing)]
  | .inclusion _ | .matching _ => []

/-- Whether the reference comes from a regular expression. -/
def fromRegex (reference : Reference) : Bool :=
  reference.relation.fromRegex

end Reference

/-- The name of the surround node with number `n`. -/
def surroundName (n : Nat) : String :=
  "__surround" ++ toString n

end RuleGraph
