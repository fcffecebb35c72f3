import Mathlib.Data.List.Basic
import RuleGraph.Graph.Build
import RuleGraph.Graph.Dot
import RuleGraph.Proofs.Graph.Dot.Reader
import RuleGraph.Proofs.Text.Comment

namespace RuleGraph

/-- Plain characters and pairs that begin with a backslash. -/
inductive Quotable : List Char → Prop where
  | nil : Quotable []
  | plain {c : Char} {s : List Char} (hslash : c ≠ '\\') (hquote : c ≠ '"') (h : Quotable s) :
      Quotable (c :: s)
  | pair (c : Char) {s : List Char} (h : Quotable s) : Quotable ('\\' :: c :: s)

/-- Escaped text can stand between quotes, whatever the text is: it is made of plain characters and
    of pairs that begin with a backslash, and so cannot end the quotes around it. -/
theorem quotable_escapeChars (s : List Char) : Quotable (Text.escapeChars s) := by
  induction s with
  | nil => exact .nil
  | cons c s ih =>
    rw [Text.escapeChars_cons, Text.escapeChar]
    split
    · exact .pair c ih
    · rename_i hplain
      exact .plain (fun h => hplain (.inl h)) (fun h => hplain (.inr h)) ih

theorem quotable_escape (s : String) : Quotable (Text.escape s).toList := by
  rw [Text.toList_escape]
  exact quotable_escapeChars s.toList

/-- The name of a node can stand between quotes, also when comments were taken out of it after
escaping: what is left is the escape of the text without its comments. -/
theorem quotable_nodeName (options : Options) (isRegex : Bool) (name : String) :
    Quotable (nodeName options isRegex name).toList := by
  unfold nodeName
  split
  · rw [Text.toList_stripComments, Text.toList_escape, Text.stripFrom_escapeChars (by simp)]
    exact quotable_escapeChars _
  · exact quotable_escape name

/-- All names in a statement can stand between quotes. -/
inductive Statement.Quotable : Statement → Prop where
  | node {name : String} (hname : RuleGraph.Quotable name.toList) : Quotable (.node name)
  | edge {e : Edge} (hsource : RuleGraph.Quotable e.source.toList)
      (htarget : RuleGraph.Quotable e.target.toList) : Quotable (.edge e)

theorem quotable_of_mem_block {options : Options} {source : String} {reference : Reference}
    {s : Statement} (h : s ∈ block options source reference) : s.Quotable := by
  have hsource := quotable_escape source
  have htarget := quotable_nodeName options reference.fromRegex reference.referenced
  unfold block at h
  split at h
  · cases h
  · dsimp only at h
    split at h
    · obtain rfl := List.mem_singleton.1 h
      exact .edge hsource htarget
    · simp only [List.mem_cons, List.mem_map] at h
      rcases h with rfl | rfl | ⟨⟨relation, regex⟩, -, rfl⟩
      · exact .edge hsource htarget
      · exact .node htarget
      · exact .edge htarget (quotable_nodeName options true regex)

/-- All names in a graph can be quoted. -/
theorem quotable_of_mem_build {options : Options} {grammar : Grammar} {s : Statement}
    (h : s ∈ (build options grammar).statements) : s.Quotable := by
  obtain ⟨⟨source, reference⟩, -, hs⟩ := List.mem_flatMap.1 h
  exact quotable_of_mem_block hs

namespace Dot

/-- Quotable text ends at the quote behind it. -/
theorem untilQuote_of_quotable {body : List Char} (h : Quotable body) (rest : List Char) :
    untilQuote (body ++ '"' :: rest) = some (body, rest) := by
  induction h with
  | nil => rfl
  | plain hslash hquote _ ih => simp [untilQuote, hslash, ih]
  | pair c _ ih => simp [untilQuote, ih]

/-- In front of any further text, `s` gives the tokens `ts`. -/
def Scans (s : List Char) (ts : List Token) : Prop :=
  ∀ rest, tokens? (s ++ rest) = (tokens? rest).map (ts ++ ·)

theorem Scans.append {s s' : List Char} {ts ts' : List Token} (h : Scans s ts)
    (h' : Scans s' ts') : Scans (s ++ s') (ts ++ ts') := by
  intro rest
  rw [List.append_assoc, h, h', Option.map_map]
  congr 1
  funext later
  simp

theorem scans_quoted {text : String} (h : Quotable text.toList) :
    Scans (quoted text).toList [.quoted text.toList] := by
  intro rest
  have hopen : (quoted text).toList ++ rest = '"' :: (text.toList ++ '"' :: rest) := by
    simp [quoted]
  rw [hopen, tokens?_quoted (untilQuote_of_quotable h rest)]
  rfl

theorem scans_indent : Scans "  ".toList [] := by
  intro rest
  simp [tokens?_cons]

theorem scans_arrow : Scans " -> ".toList [.arrow] := by
  intro rest
  simp [tokens?_cons, tokens?_arrow]

theorem scans_end : Scans ";\n".toList [.semicolon] := by
  intro rest
  simp [tokens?_cons, mark?]

theorem scans_header :
    Scans header.toList [.word "digraph".toList, .word "TextMate".toList, .openBrace] := by
  intro rest
  simp only [header, String.reduceToList, List.cons_append, List.nil_append]
  simp [tokens?_cons, mark?, Function.comp_def]

theorem tokens?_footer : tokens? footer.toList = some [.closeBrace] := by
  simp [footer, tokens?_cons, tokens?_nil, mark?]

/-- The tokens of a label. -/
def labelTokens (text : String) : List Token :=
  [.openBracket, .word "label".toList, .equals, .quoted text.toList, .closeBracket]

theorem scans_labelled (text : String) (h : Quotable text.toList) :
    Scans (labelled text).toList (labelTokens text) := by
  have hopen : Scans "[label=".toList [.openBracket, .word "label".toList, .equals] := by
    intro rest
    simp [tokens?_cons, mark?, Function.comp_def]
  have hclose : Scans "]".toList [.closeBracket] := by
    intro rest
    simp [tokens?_cons, mark?]
  have hall := (hopen.append (scans_quoted h)).append hclose
  simpa only [labelled, labelTokens, String.toList_append, List.cons_append, List.nil_append]
    using hall

/-- The label of a relation holds letters only. -/
theorem quotable_label (relation : Relation) : Quotable relation.label.toList := by
  have hplain : Text.escapeChars relation.label.toList = relation.label.toList := by
    cases relation <;> decide
  exact hplain ▸ quotable_escapeChars relation.label.toList

/-- The tokens of a statement and of the semicolon behind it. -/
def statementTokens : Statement → List Token
  | .node name => [.quoted name.toList] ++ labelTokens "" ++ [.semicolon]
  | .edge e =>
    [.quoted e.source.toList] ++ [.arrow] ++ [.quoted e.target.toList] ++
      ((e.label.map fun relation => labelTokens relation.label).getD []) ++ [.semicolon]

/-- A statement on its line is read as its tokens. -/
theorem scans_statement {s : Statement} (h : s.Quotable) :
    Scans ("  " ++ statement s ++ ";\n").toList (statementTokens s) := by
  cases h with
  | @node name hname =>
    have hall := ((scans_indent.append (scans_quoted hname)).append
      (scans_labelled "" .nil)).append scans_end
    simpa only [statement, statementTokens, String.toList_append, List.append_assoc,
      List.nil_append] using hall
  | @edge e hsource htarget =>
    have hends := ((scans_indent.append (scans_quoted hsource)).append scans_arrow).append
      (scans_quoted htarget)
    cases hlabel : e.label with
    | none =>
      have hall := hends.append scans_end
      simpa only [statement, statementTokens, hlabel, String.toList_append, List.append_assoc,
        Option.map_none, Option.getD_none, String.toList_empty, List.nil_append] using hall
    | some relation =>
      have hbrackets := scans_labelled relation.label (quotable_label relation)
      have hall := (hends.append hbrackets).append scans_end
      simpa only [statement, statementTokens, hlabel, String.toList_append, List.append_assoc,
        Option.map_some, Option.getD_some, List.nil_append] using hall

/-- The statements are read back one by one. -/
theorem statements?_statementTokens (s : Statement) (rest : List Token) :
    statements? (statementTokens s ++ rest) = (statements? rest).map (s :: ·) := by
  cases s with
  | node name => simp [statementTokens, labelTokens, statements?, isLabel]
  | edge e =>
    obtain ⟨source, target, label⟩ := e
    cases label with
    | none => simp [statementTokens, statements?]
    | some relation =>
      simp [statementTokens, labelTokens, statements?, isLabel, Relation.ofLabel?_label]

theorem toList_join_map {α : Type} (f : α → String) (l : List α) :
    (String.join (l.map f)).toList = l.flatMap fun a => (f a).toList := by
  induction l with
  | nil => rfl
  | cons a l ih => rw [List.map_cons, String.join_cons, String.toList_append, ih, List.flatMap_cons]

/-- The lines of a graph are read one after the other. -/
theorem scans_statements {l : List Statement} (h : ∀ s ∈ l, s.Quotable) :
    Scans (l.flatMap fun s => ("  " ++ statement s ++ ";\n").toList) (l.flatMap statementTokens) := by
  induction l with
  | nil =>
    intro rest
    simp
  | cons s l ih =>
    rw [List.flatMap_cons, List.flatMap_cons]
    exact (scans_statement (h s List.mem_cons_self)).append
      (ih fun s' hs' => h s' (List.mem_cons_of_mem s hs'))

/-- The tokens of statements are read as the statements, up to the closing brace. -/
theorem statements?_flatMap (l : List Statement) :
    statements? (l.flatMap statementTokens ++ [.closeBrace]) = some l := by
  induction l with
  | nil => rfl
  | cons s l ih =>
    rw [List.flatMap_cons, List.append_assoc, statements?_statementTokens, ih]
    rfl

/-- A graph whose names can all stand between quotes is read back from its text. -/
theorem read?_render (graph : Graph) (h : ∀ s ∈ graph.statements, s.Quotable) :
    read? (render graph) = some graph.statements := by
  have htext : (render graph).toList = header.toList ++
      (graph.statements.flatMap fun s => ("  " ++ statement s ++ ";\n").toList) ++
        footer.toList := by
    rw [render, String.toList_append, String.toList_append, toList_join_map]
  have htokens := (scans_header.append (scans_statements h)) footer.toList
  rw [← htext, tokens?_footer] at htokens
  have hbody := statements?_flatMap graph.statements
  simp only [read?, htokens, Option.map_some, List.cons_append, List.nil_append, and_self, if_true,
    hbody]

end Dot

/-- The text of every graph that is built reads back as just the statements of the graph, whatever
the names and regular expressions of the grammar hold; so graphs with different statements have
different texts. -/
theorem read?_render_build (options : Options) (grammar : Grammar) :
    Dot.read? (Dot.render (build options grammar)) = some (build options grammar).statements ∧
      ∀ options' grammar', Dot.render (build options grammar) =
          Dot.render (build options' grammar') →
        (build options grammar).statements = (build options' grammar').statements := by
  have hread := fun options grammar =>
    Dot.read?_render (build options grammar) fun s hs => quotable_of_mem_build hs
  refine ⟨hread options grammar, fun options' grammar' htext => ?_⟩
  have hother := hread options' grammar'
  rw [← htext, hread options grammar] at hother
  exact Option.some.inj hother

end RuleGraph
