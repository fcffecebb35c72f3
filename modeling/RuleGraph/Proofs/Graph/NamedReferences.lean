import RuleGraph.Graph.Build
import RuleGraph.Proofs.Reference.Renumbering

namespace RuleGraph

variable {withRegex : Bool} {n : Nat} {rules : List (String × Rule)}

/-- The number of surround nodes after several rules, if there were `n` before them. -/
def numberAfter (withRegex : Bool) (n : Nat) (rules : List (String × Rule)) : Nat :=
  rules.foldl (fun n rule => (extract withRegex n rule.2).2) n

/-- The rules behind others go on with the numbers that these leave. -/
theorem namedReferences_append (withRegex : Bool) (n : Nat) (rules others : List (String × Rule)) :
    namedReferences withRegex n (rules ++ others) = namedReferences withRegex n rules ++
      namedReferences withRegex (numberAfter withRegex n rules) others := by
  induction rules generalizing n with
  | nil => rfl
  | cons rule rules ih =>
    simp only [List.cons_append, namedReferences, numberAfter, List.foldl_cons, ih,
      List.append_assoc]

/-- Surround nodes are numbered through all the rules without a gap. -/
theorem numberedFrom_namedReferences (withRegex : Bool) (n : Nat) (rules : List (String × Rule)) :
    NumberedFrom n
      ((namedReferences withRegex n rules).map Prod.snd, numberAfter withRegex n rules) := by
  induction rules generalizing n with
  | nil => exact numberedFrom_of_no_nodes rfl n
  | cons rule rules ih =>
    obtain ⟨name, rule⟩ := rule
    have hall := (numberedFrom_extract withRegex n rule).append (ih (extract withRegex n rule).2)
    have hown : ((extract withRegex n rule).1.map fun reference => (name, reference)).map Prod.snd =
        (extract withRegex n rule).1 := by
      rw [List.map_map]
      exact List.map_id _
    simpa only [namedReferences, List.map_append, hown, numberAfter, List.foldl_cons] using hall

/-- Every reference comes from one of the rules, under the name of that rule. -/
theorem exists_mem_extract_of_mem_namedReferences {x : String × Reference}
    (h : x ∈ namedReferences withRegex n rules) :
    ∃ rule m, (x.1, rule) ∈ rules ∧ x.2 ∈ (extract withRegex m rule).1 := by
  induction rules generalizing n with
  | nil => cases h
  | cons rule rules ih =>
    obtain ⟨name, rule⟩ := rule
    simp only [namedReferences, List.mem_append, List.mem_map] at h
    rcases h with ⟨reference, hmem, rfl⟩ | h
    · exact ⟨rule, n, List.mem_cons_self, hmem⟩
    · obtain ⟨later, m, hlater, hmem⟩ := ih h
      exact ⟨later, m, List.mem_cons_of_mem _ hlater, hmem⟩

/-- All references of a rule are there, numbered from where the rules before it end. -/
theorem exists_extract_mem_namedReferences {name : String} {rule : Rule}
    (h : (name, rule) ∈ rules) (n : Nat) :
    ∃ m, ∀ reference ∈ (extract withRegex m rule).1,
      (name, reference) ∈ namedReferences withRegex n rules := by
  induction rules generalizing n with
  | nil => cases h
  | cons first rules ih =>
    obtain ⟨first, firstRule⟩ := first
    rcases List.mem_cons.1 h with heq | h
    · obtain ⟨rfl, rfl⟩ := Prod.mk.inj heq
      refine ⟨n, fun reference hmem => ?_⟩
      exact List.mem_append_left _ (List.mem_map_of_mem hmem)
    · obtain ⟨m, hm⟩ := ih h (extract withRegex n firstRule).2
      exact ⟨m, fun reference hmem => List.mem_append_right _ (hm reference hmem)⟩

/-- What is found among some of the rules is found among all of them, perhaps under another
number. -/
theorem exists_renumbered {fewer : List (String × Rule)} {m : Nat} (hfewer : fewer ⊆ rules)
    {x : String × Reference} (h : x ∈ namedReferences withRegex m fewer) (n : Nat) :
    ∃ reference, (x.1, reference) ∈ namedReferences withRegex n rules ∧
      reference.unnumbered = x.2.unnumbered := by
  obtain ⟨rule, k, hrule, hmem⟩ := exists_mem_extract_of_mem_namedReferences h
  obtain ⟨l, hall⟩ := exists_extract_mem_namedReferences (hfewer hrule) n
  have hfound : x.2.unnumbered ∈ (extract withRegex l rule).1.map Reference.unnumbered := by
    rw [← extract_renumbered withRegex k l]
    exact List.mem_map_of_mem hmem
  obtain ⟨reference, hreference, heq⟩ := List.mem_map.1 hfound
  exact ⟨reference, hall reference hreference, heq⟩

/-- A reference that stands behind one of the rules with the given names, with the number that it
    draws there. The rule holds a pair, so without it the reference would draw another number. -/
def BehindPair (withRegex : Bool) (n : Nat) (rules : List (String × Rule)) (names : List String)
    (x : String × Reference) : Prop :=
  ∃ front rule behind, rules = front ++ rule :: behind ∧ rule.1 ∈ names ∧ rule.2.HoldsPair ∧
    x ∈ namedReferences withRegex (numberAfter withRegex n (front ++ [rule])) behind

/-- What stands behind a rule is a reference of all the rules. -/
theorem BehindPair.mem {names : List String} {x : String × Reference}
    (h : BehindPair withRegex n rules names x) : x ∈ namedReferences withRegex n rules := by
  obtain ⟨front, rule, behind, rfl, -, -, hx⟩ := h
  rw [List.append_cons, namedReferences_append]
  exact List.mem_append_right _ hx

/-- What is behind a pair stays behind it when a rule comes in front. -/
theorem BehindPair.cons {first : String × Rule} {names : List String} {x : String × Reference}
    (h : BehindPair withRegex (extract withRegex n first.2).2 rules names x) :
    BehindPair withRegex n (first :: rules) names x := by
  obtain ⟨front, rule, behind, rfl, hname, hpair, hx⟩ := h
  exact ⟨first :: front, rule, behind, rfl, hname, hpair, hx⟩

/-- Where rules are left out, what is found among the others was found before, under the same number
    unless it stood behind a rule that is left out and holds a pair. -/
theorem mem_or_exists_behindPair {names : List String} {x : String × Reference}
    (h : x ∈ namedReferences withRegex n (rules.filter fun rule => !names.contains rule.1)) :
    x ∈ namedReferences withRegex n rules ∨
      ∃ reference, reference.unnumbered = x.2.unnumbered ∧
        BehindPair withRegex n rules names (x.1, reference) := by
  induction rules generalizing n with
  | nil => cases h
  | cons first rules ih =>
    cases hleft : names.contains first.1 with
    | false =>
      rw [List.filter_cons_of_pos (by simpa using hleft)] at h
      obtain hown | hlater := List.mem_append.1 h
      · exact .inl (List.mem_append_left _ hown)
      · obtain hsame | ⟨reference, heq, hbehind⟩ := ih hlater
        · exact .inl (List.mem_append_right _ hsame)
        · exact .inr ⟨reference, heq, hbehind.cons⟩
    | true =>
      rw [List.filter_cons_of_neg (by simpa using hleft)] at h
      by_cases hpair : first.2.HoldsPair
      · obtain ⟨reference, hmem, heq⟩ := exists_renumbered List.filter_sublist.subset h
          (numberAfter withRegex n [first])
        exact .inr ⟨reference, heq, [], first, rules, rfl, by simpa using hleft, hpair, hmem⟩
      · -- The rule that is left out draws no number, so nothing changes behind it.
        rw [← extract_snd_of_not_holdsPair hpair withRegex n] at h
        obtain hsame | ⟨reference, heq, hbehind⟩ := ih h
        · exact .inl (List.mem_append_right _ hsame)
        · exact .inr ⟨reference, heq, hbehind.cons⟩

end RuleGraph
