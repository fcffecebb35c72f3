import RuleGraph.Proofs.Cson.Grammar.Completeness
import RuleGraph.Proofs.Cson.Grammar.Soundness

namespace RuleGraph.Cson

/-- A document is read from a token list exactly if the grammar derives it from the whole list, and
    no list derives two documents. The size of the source only shows in errors. -/
theorem documentOfTokens_eq_ok_iff_derives (size : Nat) (ts : List Lexeme) :
    (∀ v, documentOfTokens size ts = .ok v ↔ Derives ts v) ∧
      ∀ v w, Derives ts v → Derives ts w → v = w := by
  refine ⟨fun v => ⟨derives_of_documentOfTokens, fun h => h.read size⟩, ?_⟩
  intro v w hv hw
  exact Except.ok.inj ((hv.read size).symm.trans (hw.read size))

end RuleGraph.Cson
