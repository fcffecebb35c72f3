import RuleGraph.Proofs.Decimal.Digits
import RuleGraph.Proofs.Reference.Origin

namespace RuleGraph

/-- The name of a surround node has nothing in it that escaping or taking out comments would change.
    -/
theorem toList_surroundName_plain (n : Nat) :
    ∀ c ∈ (surroundName n).toList, c ≠ '\\' ∧ c ≠ '"' ∧ c ≠ '#' := by
  intro c hc
  simp only [surroundName, String.toList_append, List.mem_append] at hc
  rcases hc with hc | hc
  · have hplain : "__surround".toList.all
        (fun c => c ≠ '\\' ∧ c ≠ '"' ∧ c ≠ '#') = true := by decide
    simpa using List.all_eq_true.1 hplain c hc
  · have hdigit : c.isDigit = true := by
      refine Nat.isDigit_of_mem_toDigits (b := 10) (n := n) (by decide) (by decide) ?_
      rwa [← Nat.toList_repr]
    refine ⟨?_, ?_, ?_⟩ <;> rintro rfl <;> revert hdigit <;> decide

/-- Different numbers make different names. -/
theorem surroundName_inj {n m : Nat} : surroundName n = surroundName m ↔ n = m := by
  constructor
  · intro h
    have hlists := congrArg String.toList h
    simp only [surroundName, String.toList_append, List.append_cancel_left_eq] at hlists
    have hvalues := congrArg (natOfDigits? 10) hlists
    have hn := natOfDigits?_decimalDigits n
    have hm := natOfDigits?_decimalDigits m
    rw [decimalDigits] at hn hm
    rw [hn, hm] at hvalues
    exact Option.some.inj hvalues
  · exact congrArg surroundName

/-- The node of a surround reference has the name of a number. -/
def Reference.Numbered (reference : Reference) : Prop :=
  ∀ node opening closing, reference = .surround node opening closing → ∃ n, node = surroundName n

theorem numbered_ofInclusion (target : String) : (Reference.ofInclusion target).Numbered := by
  unfold Reference.ofInclusion
  split <;> exact nofun

/-- A rule makes surround nodes from numbers only. -/
theorem Reference.MadeBy.numbered {withRegex : Bool} {rule : Rule} {reference : Reference}
    (h : reference.MadeBy withRegex rule) : reference.Numbered := by
  cases h with
  | inclusion h => exact numbered_ofInclusion _
  | matching hregex h => exact nofun
  | surround n hregex h =>
    rintro node opening closing ⟨⟩
    exact ⟨n, rfl⟩

/-- Every surround node that extraction makes has the name of a number. -/
theorem numbered_of_mem_extract {withRegex : Bool} {n : Nat} {rule : Rule} {reference : Reference}
    (h : reference ∈ (extract withRegex n rule).1) : reference.Numbered := by
  obtain ⟨inner, -, hmade⟩ := exists_madeBy_of_mem_extract h
  exact hmade.numbered

/-- The node that a reference brings with it, if it is a surround reference. -/
def Reference.node? : Reference → Option String
  | .surround node _ _ => some node
  | .inclusion _ | .matching _ => none

/-- With `n` surround nodes numbered before, the references number theirs one after the other, and
    what comes out is the number of nodes after them. -/
def NumberedFrom (n : Nat) (found : List Reference × Nat) : Prop :=
  ∃ k, found.2 = n + k ∧
    found.1.filterMap Reference.node? = (List.range' n k).map surroundName

/-- References without nodes draw no numbers. -/
theorem numberedFrom_of_no_nodes {references : List Reference}
    (h : references.filterMap Reference.node? = []) (n : Nat) : NumberedFrom n (references, n) :=
  ⟨0, rfl, h⟩

/-- Numbers are drawn one after the other, so the second references go on where the first ones end.
    -/
theorem NumberedFrom.append {n : Nat} {found others : List Reference × Nat}
    (h : NumberedFrom n found) (hothers : NumberedFrom found.2 others) :
    NumberedFrom n (found.1 ++ others.1, others.2) := by
  obtain ⟨k, hnext, hnodes⟩ := h
  obtain ⟨l, hlast, hmore⟩ := hothers
  rw [hnext] at hlast hmore
  refine ⟨k + l, ?_, ?_⟩
  · rw [hlast, Nat.add_assoc]
  · rw [List.filterMap_append, hnodes, hmore, ← List.map_append, List.range'_append_1]

theorem node?_ofInclusion (target : String) : (Reference.ofInclusion target).node? = none := by
  unfold Reference.ofInclusion
  split <;> rfl

theorem numberedFrom_ofInclusion (inclusion : Option String) (n : Nat) :
    NumberedFrom n ((inclusion.map Reference.ofInclusion).toList, n) := by
  refine numberedFrom_of_no_nodes ?_ n
  cases inclusion with
  | none => rfl
  | some target =>
    have hnode := node?_ofInclusion target
    simp only [Option.map_some, Option.toList_some, List.filterMap_cons, hnode, List.filterMap_nil]

/-- A rule draws a number for its pair, if it has one. -/
theorem numberedFrom_regexReferences (rule : Rule) (n : Nat) :
    NumberedFrom n (regexReferences rule n) := by
  have hregex : (rule.regex.map Reference.matching).toList.filterMap Reference.node? = [] := by
    cases rule.regex <;> rfl
  simp only [regexReferences]
  split
  · rename_i opening closing hsurround
    have hpair : NumberedFrom n ([.surround (surroundName n) opening closing], n + 1) :=
      ⟨1, rfl, rfl⟩
    exact (numberedFrom_of_no_nodes hregex n).append hpair
  · exact numberedFrom_of_no_nodes hregex n

mutual

/-- The surround nodes of a rule are numbered one after the other, at whatever depth they are. -/
theorem numberedFrom_extract (withRegex : Bool) (n : Nat) (rule : Rule) :
    NumberedFrom n (extract withRegex n rule) := by
  match rule with
  | ⟨inclusion, patterns, regex, opening, closing⟩ =>
    have hbefore := (numberedFrom_ofInclusion inclusion n).append
      (numberedFrom_extractNested withRegex n patterns)
    simp only [extract]
    split
    · exact hbefore.append (numberedFrom_regexReferences _ _)
    · simpa only [List.append_nil] using hbefore

/-- Rules inside a rule draw their numbers before it does. -/
theorem numberedFrom_extractNested (withRegex : Bool) (n : Nat) (patterns : Option (List Rule)) :
    NumberedFrom n (extractNested withRegex n patterns) := by
  match patterns with
  | none => exact numberedFrom_of_no_nodes rfl n
  | some rules => exact numberedFrom_extractList withRegex n rules

/-- Several rules draw their numbers one after the other. -/
theorem numberedFrom_extractList (withRegex : Bool) (n : Nat) (rules : List Rule) :
    NumberedFrom n (extractList withRegex n rules) := by
  match rules with
  | [] => exact numberedFrom_of_no_nodes rfl n
  | rule :: rules =>
    exact (numberedFrom_extract withRegex n rule).append
      (numberedFrom_extractList withRegex _ rules)

end

end RuleGraph
