import Mathlib.Data.List.Infix
import RuleGraph.Proofs.Reference.Extract
import RuleGraph.Proofs.Reference.Regrouping

namespace RuleGraph

namespace Rule

/-- The rules directly nested in a rule. -/
def nested (rule : Rule) : List Rule :=
  rule.patterns.getD []

/-- The rule at a place of the tree: the numbers say which nested rule to go on with. -/
def at? : List Nat → Rule → Option Rule
  | [], rule => some rule
  | i :: place, rule => rule.nested[i]?.bind (at? place)

mutual

/-- The rules of a tree from left to right, each before or behind the rules nested in it. -/
def inOrder (rootFirst : Bool) (rule : Rule) : List Rule :=
  match rule with
  | ⟨inclusion, patterns, regex, opening, closing⟩ =>
    let root : Rule := ⟨inclusion, patterns, regex, opening, closing⟩
    let later := inOrderNested rootFirst patterns
    if rootFirst then root :: later else later ++ [root]

/-- The rules of the trees nested in a rule, if there are any. -/
def inOrderNested (rootFirst : Bool) : Option (List Rule) → List Rule
  | none => []
  | some rules => inOrderList rootFirst rules

/-- The rules of several trees, one tree after the other. -/
def inOrderList (rootFirst : Bool) : List Rule → List Rule
  | [] => []
  | rule :: rules => inOrder rootFirst rule ++ inOrderList rootFirst rules

end

/-- The rules of a tree, each before the rules nested in it. -/
def preorder (rule : Rule) : List Rule :=
  rule.inOrder true

/-- The rules of a tree, each behind the rules nested in it. -/
def postorder (rule : Rule) : List Rule :=
  rule.inOrder false

end Rule

/-- The target of an inclusion without the one mark that may stand in front of it. -/
def withoutMark (target : String) : String :=
  String.ofList (if target.toList.head? = some '#' then target.toList.tail else target.toList)

/-- The references of the inclusions of the rules. -/
def inclusionsOf (rules : List Rule) : List Reference :=
  (rules.filterMap (·.inclusion)).map fun target => .inclusion (withoutMark target)

/-- The references of the regular expressions that match within one line. -/
def matchingsOf (rules : List Rule) : List Reference :=
  (rules.filterMap (·.regex)).map .matching

/-- The references of the pairs for beginning and end, numbered from `n` on. -/
def surroundsOf (n : Nat) (rules : List Rule) : List Reference :=
  (rules.filterMap (·.surround?)).mapIdx fun i ends => .surround (surroundName (n + i)) ends.1 ends.2

theorem inclusionsOf_append (rules others : List Rule) :
    inclusionsOf (rules ++ others) = inclusionsOf rules ++ inclusionsOf others := by
  rw [inclusionsOf, List.filterMap_append, List.map_append]
  rfl

theorem matchingsOf_append (rules others : List Rule) :
    matchingsOf (rules ++ others) = matchingsOf rules ++ matchingsOf others := by
  rw [matchingsOf, List.filterMap_append, List.map_append]
  rfl

/-- There are as many surround nodes as pairs. -/
theorem length_surroundsOf (n : Nat) (rules : List Rule) :
    (surroundsOf n rules).length = (rules.filterMap (·.surround?)).length :=
  List.length_mapIdx

/-- Further pairs are numbered from where the first ones end. -/
theorem surroundsOf_append (n : Nat) (rules others : List Rule) :
    surroundsOf n (rules ++ others) =
      surroundsOf n rules ++ surroundsOf (n + (surroundsOf n rules).length) others := by
  rw [length_surroundsOf, surroundsOf, List.filterMap_append, List.mapIdx_append]
  simp only [surroundsOf, Nat.add_assoc, Nat.add_comm (List.length _)]

theorem ofInclusion_eq (target : String) :
    Reference.ofInclusion target = .inclusion (withoutMark target) := by
  unfold Reference.ofInclusion withoutMark
  split
  · next name heq => simp [heq]
  · next hnot =>
    have hhead : target.toList.head? ≠ some '#' := by
      intro hhead
      obtain ⟨name, hname⟩ := List.head?_eq_some_iff.1 hhead
      exact hnot name hname
    rw [if_neg hhead, String.ofList_toList]

/-- With `n` nodes numbered before, what is found are the inclusions of the rules in `down` and the
    regular expressions of the rules in `up`, each kind in the order of the rules. -/
structure Finds (n : Nat) (down up : List Rule) (found : List Reference × Nat) : Prop where
  inclusions : found.1.filter (·.relation = .inclusion) = inclusionsOf down
  matchings : found.1.filter (·.relation = .matching) = matchingsOf up
  surrounds : found.1.filter (·.relation = .surround) = surroundsOf n up
  next : found.2 = n + (surroundsOf n up).length

/-- What is found in two parts of a tree stands one behind the other, and the numbers go on. -/
theorem Finds.append {n : Nat} {down up down' up' : List Rule} {found others : List Reference × Nat}
    (h : Finds n down up found) (hothers : Finds found.2 down' up' others) :
    Finds n (down ++ down') (up ++ up') (found.1 ++ others.1, others.2) where
  inclusions := by
    rw [List.filter_append, h.inclusions, hothers.inclusions, inclusionsOf_append]
  matchings := by
    rw [List.filter_append, h.matchings, hothers.matchings, matchingsOf_append]
  surrounds := by
    rw [List.filter_append, h.surrounds, hothers.surrounds, h.next, surroundsOf_append]
  next := by
    rw [hothers.next, h.next, surroundsOf_append, List.length_append, Nat.add_assoc]

theorem finds_nothing (n : Nat) : Finds n [] [] ([], n) :=
  ⟨rfl, rfl, rfl, rfl⟩

theorem inclusionsOf_singleton (rule : Rule) :
    inclusionsOf [rule] = (rule.inclusion.map Reference.ofInclusion).toList := by
  obtain ⟨inclusion, patterns, regex, opening, closing⟩ := rule
  cases inclusion with
  | none => rfl
  | some target => exact congrArg (fun reference => [reference]) (ofInclusion_eq target).symm

/-- The references of a rule's own regular expressions: a match, and behind it a pair. -/
theorem regexReferences_fst (rule : Rule) (n : Nat) :
    (regexReferences rule n).1 = matchingsOf [rule] ++ surroundsOf n [rule] := by
  obtain ⟨inclusion, patterns, regex, opening, closing⟩ := rule
  cases regex <;> cases opening <;> cases closing <;> rfl

/-- An inclusion is found where its rule stands on the way down. -/
theorem finds_inclusion (rule : Rule) (n : Nat) :
    Finds n [rule] [] ((rule.inclusion.map Reference.ofInclusion).toList, n) := by
  obtain ⟨inclusion, patterns, regex, opening, closing⟩ := rule
  cases inclusion with
  | none => exact ⟨rfl, rfl, rfl, rfl⟩
  | some target =>
    rw [Option.map_some, ofInclusion_eq]
    exact ⟨rfl, rfl, rfl, rfl⟩

/-- Regular expressions are found where their rule stands on the way up. -/
theorem finds_regexReferences (rule : Rule) (n : Nat) :
    Finds n [] [rule] (regexReferences rule n) := by
  obtain ⟨inclusion, patterns, regex, opening, closing⟩ := rule
  cases regex <;> cases opening <;> cases closing <;> exact ⟨rfl, rfl, rfl, rfl⟩

mutual

/-- From the root down there are the inclusions, from the leaves up the regular expressions, and
    surround nodes are numbered as they stand. -/
theorem finds_extract (n : Nat) (rule : Rule) :
    Finds n rule.preorder rule.postorder (extract true n rule) := by
  match rule with
  | ⟨inclusion, patterns, regex, opening, closing⟩ =>
    have hnested := (finds_inclusion ⟨inclusion, patterns, regex, opening, closing⟩ n).append
      (finds_extractNested n patterns)
    have hall := hnested.append
      (finds_regexReferences ⟨inclusion, patterns, regex, opening, closing⟩ _)
    rw [List.append_nil] at hall
    exact hall

theorem finds_extractNested (n : Nat) (patterns : Option (List Rule)) :
    Finds n (Rule.inOrderNested true patterns) (Rule.inOrderNested false patterns)
      (extractNested true n patterns) := by
  match patterns with
  | none => exact finds_nothing n
  | some rules => exact finds_extractList n rules

theorem finds_extractList (n : Nat) (rules : List Rule) :
    Finds n (Rule.inOrderList true rules) (Rule.inOrderList false rules)
      (extractList true n rules) := by
  match rules with
  | [] => exact finds_nothing n
  | rule :: rules => exact (finds_extract n rule).append (finds_extractList _ rules)

end

/-- Each reference is of one of three kinds. -/
theorem perm_kinds (references : List Reference) :
    references.Perm (references.filter (·.relation = .inclusion) ++
      references.filter (·.relation = .matching) ++
        references.filter (·.relation = .surround)) := by
  induction references with
  | nil => rfl
  | cons reference references ih =>
    cases reference with
    | inclusion name => exact ih.cons _
    | matching regex =>
      refine (ih.cons _).trans ?_
      rw [List.append_assoc, List.append_assoc]
      exact List.perm_middle.symm
    | surround node opening closing => exact (ih.cons _).trans List.perm_middle.symm

/-- Only surround nodes have ends. -/
theorem flatMap_ends_filter (references : List Reference) :
    (references.filter (·.relation = .surround)).flatMap Reference.ends =
      references.flatMap Reference.ends := by
  induction references with
  | nil => rfl
  | cons reference references ih => cases reference <;> simp_all [Reference.relation, Reference.ends]

/-- Every pair has its beginning in front of its end. -/
theorem flatMap_ends_surroundsOf (n : Nat) (rules : List Rule) :
    (surroundsOf n rules).flatMap Reference.ends = (rules.filterMap (·.surround?)).flatMap
      fun ends => [(.opening, ends.1), (.closing, ends.2)] := by
  induction rules generalizing n with
  | nil => rfl
  | cons rule rules ih =>
    have hfirst : (surroundsOf n [rule]).flatMap Reference.ends =
        ([rule].filterMap (·.surround?)).flatMap
          fun ends => [(.opening, ends.1), (.closing, ends.2)] := by
      obtain ⟨inclusion, patterns, regex, opening, closing⟩ := rule
      cases opening <;> cases closing <;> rfl
    rw [← List.singleton_append, surroundsOf_append, List.flatMap_append, hfirst, ih,
      ← List.flatMap_append, ← List.filterMap_append]

section Places

variable (withRegex : Bool)

/-- The references of the rule at a place of the tree and of all rules nested in it, with `n`
    surround nodes numbered before the tree. -/
def referencesAt : Nat → Rule → List Nat → List Reference
  | n, rule, [] => (extract withRegex n rule).1
  | n, rule, i :: place =>
    match rule.nested[i]? with
    | some inner => referencesAt (extractList withRegex n (rule.nested.take i)).2 inner place
    | none => []

/-- The references of several rules are those of each rule at its place. -/
theorem extractList_eq_flatMap (n : Nat) (rules : List Rule) :
    (extractList withRegex n rules).1 = (List.range rules.length).flatMap fun i =>
      referencesAt withRegex n (.container rules) [i] := by
  induction rules using List.reverseRecOn with
  | nil => rfl
  | append_singleton rules rule ih =>
    have hbefore : ∀ i ∈ List.range rules.length,
        referencesAt withRegex n (.container (rules ++ [rule])) [i] =
          referencesAt withRegex n (.container rules) [i] := by
      intro i hi
      have hlt := List.mem_range.1 hi
      simp only [referencesAt, Rule.nested, Rule.container, Option.getD_some,
        List.getElem?_append_left hlt, List.take_append_of_le_length hlt.le]
    have hlast : referencesAt withRegex n (.container (rules ++ [rule])) [rules.length] =
        (extract withRegex (extractList withRegex n rules).2 rule).1 := by
      simp [referencesAt, Rule.nested, Rule.container]
    rw [extractList_append, extractList_singleton, List.length_append, List.length_singleton,
      List.range_succ, List.flatMap_append, List.flatMap_singleton, hlast, ih,
      List.flatMap_congr hbefore]

/-- The nested rules stand between the inclusion of the rule and its regular expressions. -/
theorem exists_extract_eq (n : Nat) (rule : Rule) :
    ∃ m, (extract withRegex n rule).1 = inclusionsOf [rule] ++
      (List.range rule.nested.length).flatMap (fun i => referencesAt withRegex n rule [i]) ++
        if withRegex then matchingsOf [rule] ++ surroundsOf m [rule] else [] := by
  obtain ⟨inclusion, patterns, regex, opening, closing⟩ := rule
  have hnested : (extractNested withRegex n patterns).1 =
      (List.range (patterns.getD []).length).flatMap fun i =>
        referencesAt withRegex n ⟨inclusion, patterns, regex, opening, closing⟩ [i] := by
    cases patterns with
    | none => rfl
    | some rules => exact extractList_eq_flatMap withRegex n rules
  refine ⟨(extractNested withRegex n patterns).2, ?_⟩
  simp only [extract, hnested, inclusionsOf_singleton, ← regexReferences_fst, Rule.nested]
  cases withRegex <;> rfl

/-- At a place stand the inclusion of its rule, the references of the places inside it, and the
    regular expressions of its rule. -/
theorem exists_referencesAt_eq {rule inner : Rule} {place : List Nat}
    (h : rule.at? place = some inner) (n : Nat) :
    ∃ m, referencesAt withRegex n rule place = inclusionsOf [inner] ++
      (List.range inner.nested.length).flatMap
        (fun i => referencesAt withRegex n rule (place ++ [i])) ++
        if withRegex then matchingsOf [inner] ++ surroundsOf m [inner] else [] := by
  induction place generalizing n rule with
  | nil =>
    obtain rfl := Option.some.inj h
    exact exists_extract_eq withRegex n rule
  | cons i place ih =>
    obtain ⟨next, hnext, hinner⟩ := Option.bind_eq_some_iff.1 h
    simp only [referencesAt, List.cons_append, hnext]
    exact ih hinner _

/-- The references of a place stand together. -/
theorem isInfix_referencesAt {rule inner : Rule} {place : List Nat}
    (h : rule.at? place = some inner) (n : Nat) :
    referencesAt withRegex n rule place <:+: (extract withRegex n rule).1 := by
  induction place generalizing n rule with
  | nil => exact List.infix_rfl
  | cons i place ih =>
    obtain ⟨next, hnext, hinner⟩ := Option.bind_eq_some_iff.1 h
    obtain ⟨hi, -⟩ := List.getElem?_eq_some_iff.1 hnext
    obtain ⟨m, hrule⟩ := exists_extract_eq withRegex n rule
    have hfirst : referencesAt withRegex n rule [i] =
        (extract withRegex (extractList withRegex n (rule.nested.take i)).2 next).1 := by
      simp only [referencesAt, hnext]
    have hpart : referencesAt withRegex n rule [i] <:+: (List.range rule.nested.length).flatMap
        fun i => referencesAt withRegex n rule [i] :=
      List.infix_of_mem_flatten (List.mem_map.2 ⟨i, List.mem_range.2 hi, rfl⟩)
    rw [hfirst] at hpart
    rw [hrule]
    simp only [referencesAt, hnext]
    exact (ih hinner _).trans (hpart.trans (List.infix_append ..))

end Places

/-- The references of each rule of the tree and of all rules nested in it stand together: first its
    own inclusion, then the nested rules in order, then its own regular expressions. -/
def Rule.Contiguous (withRegex : Bool) (rule : Rule) (references : List Reference) : Prop :=
  ∃ part : List Nat → List Reference, part [] = references ∧
    ∀ place inner, rule.at? place = some inner → part place <:+: references ∧
      ∃ m, part place = inclusionsOf [inner] ++
        (List.range inner.nested.length).flatMap (fun i => part (place ++ [i])) ++
          if withRegex then matchingsOf [inner] ++ surroundsOf m [inner] else []

/-- All that the rules of a subtree refer to stands together. -/
theorem contiguous_extract (withRegex : Bool) (n : Nat) (rule : Rule) :
    rule.Contiguous withRegex (extract withRegex n rule).1 :=
  ⟨referencesAt withRegex n rule, rfl, fun _ _ h =>
    ⟨isInfix_referencesAt withRegex h n, exists_referencesAt_eq withRegex h n⟩⟩

/-- Without regular expressions there are the inclusions, and nothing is numbered. -/
theorem extract_false_eq (n : Nat) (rule : Rule) :
    extract false n rule = (inclusionsOf rule.preorder, n) := by
  have hkind (reference : Reference) :
      (!reference.fromRegex) = decide (reference.relation = .inclusion) := by
    cases reference <;> rfl
  rw [extract_without_regex n n, ← (finds_extract n rule).inclusions]
  simp only [hkind]

/-- Extraction finds everything, in order and numbered without gaps. Without regular expressions it
finds the inclusions, from the root down. With them it finds these, the regular expressions from the
leaves up, and the pairs of exactly those rules that have both ends, also from the leaves up, each on
a node with the next number; it finds nothing else. What the rules of a subtree refer to stands
together, in either case. -/
theorem extract_in_order (n : Nat) (rule : Rule) :
    extract false n rule = (inclusionsOf rule.preorder, n) ∧
      (extract true n rule).1.filter (·.relation = .inclusion) = inclusionsOf rule.preorder ∧
      (extract true n rule).1.filter (·.relation = .matching) = matchingsOf rule.postorder ∧
      (extract true n rule).1.filter (·.relation = .surround) = surroundsOf n rule.postorder ∧
      (extract true n rule).1.Perm (inclusionsOf rule.preorder ++ matchingsOf rule.postorder ++
        surroundsOf n rule.postorder) ∧
      (extract true n rule).1.flatMap Reference.ends =
        (rule.postorder.filterMap (·.surround?)).flatMap
          (fun ends => [(.opening, ends.1), (.closing, ends.2)]) ∧
      (extract true n rule).2 = n + (surroundsOf n rule.postorder).length ∧
      ∀ withRegex, rule.Contiguous withRegex (extract withRegex n rule).1 := by
  obtain ⟨hinclusions, hmatchings, hsurrounds, hnext⟩ := finds_extract n rule
  refine ⟨extract_false_eq n rule, hinclusions, hmatchings, hsurrounds, ?_, ?_, hnext,
    fun withRegex => contiguous_extract withRegex n rule⟩
  · rw [← hinclusions, ← hmatchings, ← hsurrounds]
    exact perm_kinds _
  · rw [← flatMap_ends_filter, hsurrounds, flatMap_ends_surroundsOf]

end RuleGraph
