import Mathlib
import RuleGraph.Proofs.Cson.LineEnds.Tokens
import RuleGraph.Proofs.Cson.Returns.Literal

namespace RuleGraph.Cson

open RuleGraph.Text

/-- The source has a literal in three quotes with the given text between the quotes. -/
def HasTriple (source raw : List Char) : Prop :=
  ∃ s, LexesTo source s ∧ StartsTriple s raw

/-- Two texts of documents that the source gives without and with carriage returns. -/
def Returned (source : List Char) (text text' : String) : Prop :=
  ∃ s, LexesTo source s ∧ ReturnedAt s text text'

theorem isSpace_of_mem_return : ∀ c ∈ ['\r'], isSpace c = true :=
  List.forall_mem_singleton.2 rfl

/-- The line end with a carriage return. -/
def returnEnding : LineEnding where
  before := ['\r']
  after := []
  before_blank := isSpace_of_mem_return
  after_blank := isSpace_of_mem_nil

/-- Carriage returns are blanks in front of the line ends. -/
theorem relined_returnEnding (s : List Char) : returnEnding.relined s = withReturns s :=
  (withReturns_eq_withLineEnds s).symm

/-- A string that changes has carriage returns in a text over several lines. -/
theorem returnedAt_of_retold {s : List Char} {text text' : String}
    (h : returnEnding.Retold s text text') : ReturnedAt s text text' := by
  obtain ⟨delimiter, raw, ⟨r, rest, hopen, hbody⟩, rfl, rfl⟩ := h
  rw [relined_returnEnding]
  exact returnedAt_literalText hopen hbody

/-- The lexer finds like tokens with carriage returns and without them, or an error both times. -/
theorem tokensFrom_withReturns (source : List Char) :
    Agree (LikeTokens (Returned source)) (tokensFrom {} source)
      (tokensFrom {} (withReturns source)) := by
  have hstart : LexesTo source source := .start
  have htokens := returnEnding.tokensFrom_relined hstart (p := {}) (q := {}) rfl
  rw [relined_returnEnding] at htokens
  have hreturned (text text' : String)
      (h : ∃ s, LexesTo source s ∧ returnEnding.Retold s text text') :
      Returned source text text' :=
    h.imp fun _ hs => ⟨hs.1, returnedAt_of_retold hs.2⟩
  have hlike (x y : Lexeme) (h : returnEnding.Relines _ x y) : x.Like (Returned source) y :=
    ⟨h.token.mono hreturned, fun hline => by rw [h.column, if_neg hline]; rfl⟩
  exact htokens.mono fun ts ts' h => h.imp hlike

theorem returned_refl (source : List Char) (text : String) : Returned source text text :=
  ⟨source, .start, .inl rfl⟩

/-- Without texts in three quotes on several lines, all texts stay what they are. -/
theorem eq_of_returned {source : List Char} (h : ∀ raw, HasTriple source raw → '\n' ∉ raw)
    {text text' : String} (hreturned : Returned source text text') : text = text' := by
  obtain ⟨s, hs, rfl | ⟨raw, htriple, hline, -⟩⟩ := hreturned
  · rfl
  · exact absurd hline (h raw ⟨s, hs, htriple⟩)

/-- The documents of a source without and with carriage returns are like each other. -/
theorem agree_parse_withReturns (source : String) :
    Agree (Document.Like (Returned source.toList)) (parse source)
      (parse (String.ofList (withReturns source.toList))) :=
  agree_parse (tokensFrom_withReturns source.toList) fun _ _ size size' hts =>
    hts.agree_documentOfTokens (returned_refl _) size size'

/-- A source is accepted with carriage returns exactly if it is accepted without them. The documents
    are the same but for the texts in three quotes that run over several lines, and the same
    altogether if there are none. -/
theorem parse_withReturns (source : String) :
    (∀ d, parse source = .ok d → ∃ d', parse (String.ofList (withReturns source.toList)) = .ok d' ∧
      d.Like (Returned source.toList) d') ∧
    (∀ d', parse (String.ofList (withReturns source.toList)) = .ok d' →
      ∃ d, parse source = .ok d) ∧
    ((∀ raw, HasTriple source.toList raw → '\n' ∉ raw) →
      ∀ d, parse source = .ok d ↔ parse (String.ofList (withReturns source.toList)) = .ok d) := by
  have hagree := agree_parse_withReturns source
  refine ⟨fun d hread => hagree.exists_right hread, fun d' hread => ?_, fun hplain d => ⟨?_, ?_⟩⟩
  · obtain ⟨d, hd, -⟩ := hagree.exists_left hread
    exact ⟨d, hd⟩
  · intro hread
    obtain ⟨d', hd', hlike⟩ := hagree.exists_right hread
    rw [hd', hlike.eq fun _ _ => eq_of_returned hplain]
  · intro hread
    obtain ⟨d', hd', hlike⟩ := hagree.exists_left hread
    rw [hd', hlike.eq fun _ _ => eq_of_returned hplain]

/-- Three quotes around two lines keep the carriage return between them. -/
theorem not_forall_parse_withReturns :
    ¬∀ source : String, '\r' ∉ source.toList → ∀ d,
      parse source = .ok d ↔ parse (String.ofList (withReturns source.toList)) = .ok d := by
  intro h
  have hplain : parse "a: '''x\ny'''" = .ok (.object [("a", .string "x\ny")]) := by cbv
  have hreturned : parse "a: '''x\r\ny'''" = .ok (.object [("a", .string "x\r\ny")]) := by cbv
  have hsource : String.ofList (withReturns "a: '''x\ny'''".toList) = "a: '''x\r\ny'''" := by
    decide
  have hsame := (h _ (by decide) _).1 hplain
  rw [hsource, hreturned] at hsame
  simp at hsame

end RuleGraph.Cson
