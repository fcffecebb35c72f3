import RuleGraph.Cson.Lexer
import RuleGraph.Proofs.Text.Returns

namespace RuleGraph.Cson

open RuleGraph.Text

theorem trimLater_cons {later : List (List Char)} (h : later ≠ []) (line : List Char) :
    trimLater (line :: later) = trim line :: trimLater later := by
  cases later with
  | nil => exact absurd rfl h
  | cons second later => rfl

/-- Cutting the lines leaves no trace of the carriage returns. -/
theorem trimLater_returnLines (later : List (List Char)) :
    trimLater (returnLines later) = trimLater later := by
  induction later with
  | nil => rfl
  | cons line later ih =>
    by_cases hlast : later = []
    · rw [hlast, returnLines]
    · rw [returnLines_cons hlast, trimLater_cons (returnLines_ne_nil hlast),
        trim_append_blank isBlank_return, ih, trimLater_cons hlast]

/-- Folding cuts the carriage returns off with the other blanks at the ends of lines. -/
theorem foldLines_withReturns (raw : List Char) : foldLines (withReturns raw) = foldLines raw := by
  rw [foldLines, foldLines, lines_withReturns]
  obtain ⟨first, later, hlines⟩ := List.exists_cons_of_ne_nil (lines_ne_nil raw)
  rw [hlines]
  cases later with
  | nil => rfl
  | cons second later =>
    rw [returnLines_cons (List.cons_ne_nil _ _)]
    obtain ⟨third, others, hlater⟩ :=
      List.exists_cons_of_ne_nil (returnLines_ne_nil (List.cons_ne_nil second later))
    have htrim := trimLater_returnLines (second :: later)
    rw [hlater] at htrim ⊢
    simp only [trimEnd_append_blank isBlank_return, htrim]

/-- A literal in three quotes starts here, with the given text between the quotes. -/
def StartsTriple (s raw : List Char) : Prop :=
  ∃ delimiter r rest, openingQuotes? s = some (delimiter, r) ∧ delimiter.isTriple = true ∧
    literalBody delimiter.text r = some (raw, rest)

/-- Two texts of literals that start here: they are equal, or they come from three quotes around
    several lines, where the lines of the second one end in carriage returns. -/
def ReturnedAt (s : List Char) (text text' : String) : Prop :=
  text = text' ∨ ∃ raw, StartsTriple s raw ∧ '\n' ∈ raw ∧
    text = literalText .tripleSingle raw ∧ text' = literalText .tripleSingle (withReturns raw)

/-- Both kinds of three quotes treat their lines alike. -/
theorem literalText_of_isTriple {delimiter : Delimiter} (h : delimiter.isTriple = true)
    (raw : List Char) : literalText delimiter raw = literalText .tripleSingle raw := by
  rw [literalText, literalText, h]
  rfl

/-- Only a text in three quotes, which keeps its lines, shows carriage returns. -/
theorem literalText_withReturns {delimiter : Delimiter} (h : delimiter.isTriple = false)
    (raw : List Char) : literalText delimiter (withReturns raw) = literalText delimiter raw := by
  rw [literalText, literalText, h]
  simp only [Bool.false_eq_true, ↓reduceIte, foldLines_withReturns]

/-- A literal denotes the text with the carriage returns of its body, or the same text as without
    them. -/
theorem returnedAt_literalText {s r raw rest : List Char} {delimiter : Delimiter}
    (hopen : openingQuotes? s = some (delimiter, r))
    (hbody : literalBody delimiter.text r = some (raw, rest)) :
    ReturnedAt s (literalText delimiter raw) (literalText delimiter (withReturns raw)) := by
  by_cases hline : '\n' ∈ raw
  · cases htriple : delimiter.isTriple with
    | false => exact .inl (literalText_withReturns htriple raw).symm
    | true =>
      rw [literalText_of_isTriple htriple, literalText_of_isTriple htriple]
      exact .inr ⟨raw, ⟨delimiter, r, rest, hopen, htriple, hbody⟩, hline, rfl, rfl⟩
  · exact .inl (by rw [withReturns_of_not_mem hline])

end RuleGraph.Cson
