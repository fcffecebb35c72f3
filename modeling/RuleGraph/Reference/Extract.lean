import RuleGraph.Grammar
import RuleGraph.Reference.Basic

namespace RuleGraph

/-- The references of a rule's own regular expressions, with `n` nodes numbered before. -/
def regexReferences (rule : Rule) (n : Nat) : List Reference × Nat :=
  let own := (rule.regex.map Reference.matching).toList
  match rule.surround? with
  | some (opening, closing) => (own ++ [.surround (surroundName n) opening closing], n + 1)
  | none => (own, n)

mutual

/-- The references of `rule` in a fixed order: its inclusion, the references of the rules nested in
    it, its regular expression, and its pair for beginning and end. Each such pair takes the next
    number for its node, so the number `n` of surround nodes so far goes in and the number behind
    the rule comes out. Regular expressions count only where `withRegex` is set. -/
def extract (withRegex : Bool) (n : Nat) (rule : Rule) : List Reference × Nat :=
  match rule with
  | ⟨inclusion, patterns, regex, opening, closing⟩ =>
    let own := (inclusion.map Reference.ofInclusion).toList
    let (nested, n) := extractNested withRegex n patterns
    let (last, n) :=
      if withRegex then regexReferences ⟨inclusion, none, regex, opening, closing⟩ n else ([], n)
    (own ++ nested ++ last, n)

/-- The references of the rules nested in a rule, if there are any. -/
def extractNested (withRegex : Bool) (n : Nat) : Option (List Rule) → List Reference × Nat
  | none => ([], n)
  | some rules => extractList withRegex n rules

/-- The references of several rules, one after the other. -/
def extractList (withRegex : Bool) (n : Nat) : List Rule → List Reference × Nat
  | [] => ([], n)
  | rule :: rules =>
    let (first, n) := extract withRegex n rule
    let (others, n) := extractList withRegex n rules
    (first ++ others, n)

end

end RuleGraph
