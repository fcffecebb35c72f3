import Mathlib.Data.List.Induction
import RuleGraph.Graph.Build
import RuleGraph.Proofs.Text.Comment

namespace RuleGraph

namespace Text

/-- Comments are taken out after escaping, but it makes no difference if they are taken out before
    it. -/
theorem stripComments_escape_eq (s : String) :
    stripComments (escape s) = escape (stripComments s) := by
  rw [← String.toList_inj, toList_stripComments, toList_escape, toList_escape, toList_stripComments,
    stripFrom_escapeChars (by simp)]

/-- The number of backslashes at the end of a text. -/
def trailingBackslashes (s : List Char) : Nat :=
  (s.reverse.takeWhile (· = '\\')).length

/-- A text that ends in no backslash, or in a pair of two, is cut behind a pair or a plain
    character. -/
theorem trailingBackslashes_escapeChars (s : List Char) :
    trailingBackslashes (escapeChars s) % 2 = 0 := by
  induction s using List.reverseRecOn with
  | nil => rfl
  | append_singleton s c ih =>
    have hlast : escapeChars [c] = escapeChar c := by
      rw [escapeChars_cons, escapeChars_nil, List.append_nil]
    rw [escapeChars_append, hlast, escapeChar]
    rw [trailingBackslashes] at ih ⊢
    by_cases hslash : c = '\\'
    · simp only [hslash, true_or, if_true, List.reverse_append, List.reverse_cons, List.reverse_nil,
        List.nil_append, List.cons_append, List.takeWhile_cons, decide_true, List.length_cons]
      omega
    · split <;> simp [hslash]

end Text

/-- The names in a statement. -/
def Statement.names : Statement → List String
  | .node name => [name]
  | .edge e => [e.source, e.target]

/-- Every name of a node is the escape of a text. -/
theorem nodeName_eq_escape (options : Options) (isRegex : Bool) (name : String) :
    nodeName options isRegex name =
      Text.escape (if isRegex && options.uncomment then Text.stripComments name else name) := by
  rw [nodeName]
  split
  · exact Text.stripComments_escape_eq name
  · rfl

/-- Every name in a graph is the escape of a text. -/
theorem exists_escape_of_mem_block {options : Options} {source : String} {reference : Reference}
    {s : Statement} (h : s ∈ block options source reference) :
    ∀ name ∈ s.names, ∃ text, name = Text.escape text := by
  have hnode (isRegex : Bool) (name : String) :
      ∃ text, nodeName options isRegex name = Text.escape text :=
    ⟨_, nodeName_eq_escape options isRegex name⟩
  have hedge {e : Edge} (hsource : ∃ text, e.source = Text.escape text)
      (htarget : ∃ text, e.target = Text.escape text) :
      ∀ name ∈ (Statement.edge e).names, ∃ text, name = Text.escape text :=
    List.forall_mem_cons.2 ⟨hsource, List.forall_mem_singleton.2 htarget⟩
  have htarget := hnode reference.fromRegex reference.referenced
  unfold block at h
  split at h
  · cases h
  · dsimp only at h
    split at h
    · obtain rfl := List.mem_singleton.1 h
      exact hedge ⟨source, rfl⟩ htarget
    · simp only [List.mem_cons, List.mem_map] at h
      rcases h with rfl | rfl | ⟨⟨relation, regex⟩, -, rfl⟩
      · exact hedge ⟨source, rfl⟩ htarget
      · exact List.forall_mem_singleton.2 htarget
      · exact hedge htarget (hnode true regex)

/-- Taking out comments and escaping commute. So a node is named by the escape of its text, or of its
text without comments, and no name in a graph ends within a pair. -/
theorem stripComments_escape :
    (∀ s, Text.stripComments (Text.escape s) = Text.escape (Text.stripComments s)) ∧
      (∀ options isRegex name, nodeName options isRegex name =
        Text.escape (if isRegex && options.uncomment then Text.stripComments name else name)) ∧
      ∀ options grammar, ∀ s ∈ (build options grammar).statements, ∀ name ∈ s.names,
        (∃ text, name = Text.escape text) ∧ Text.trailingBackslashes name.toList % 2 = 0 := by
  refine ⟨Text.stripComments_escape_eq, nodeName_eq_escape, fun options grammar s hs name hname => ?_⟩
  obtain ⟨⟨source, reference⟩, -, hblock⟩ := List.mem_flatMap.1 hs
  obtain ⟨text, rfl⟩ := exists_escape_of_mem_block hblock name hname
  refine ⟨⟨text, rfl⟩, ?_⟩
  rw [Text.toList_escape]
  exact Text.trailingBackslashes_escapeChars text.toList

end RuleGraph
