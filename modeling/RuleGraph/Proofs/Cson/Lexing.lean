import RuleGraph.Cson.Lexer

namespace RuleGraph.Cson

/-- The token of a step, if it makes one, the text that it takes, and the text that it leaves. -/
def step {s : List Char} (x? : Option (Lexed s)) : Option (Option Token × List Char × List Char) :=
  x?.map fun x => (x.token?, x.taken, x.rest)

/-- The lexeme of a step that starts at a place, if it makes a token. -/
def lexemeAt (place : Place) (token? : Option Token) : List Lexeme :=
  (token?.map fun token => ⟨token, place⟩).toList

@[simp] theorem tokensFrom_nil (place : Place) : tokensFrom place [] = .ok [] := by
  rw [tokensFrom]

/-- The tokens of a text are that of its first step and those of what the step leaves. -/
theorem tokensFrom_eq_of_step {s taken rest : List Char} {token? : Option Token}
    (h : step (lex? s) = some (token?, taken, rest)) (place : Place) :
    tokensFrom place s =
      (tokensFrom (place.advance taken) rest).map (lexemeAt place token? ++ ·) := by
  obtain ⟨x, hx, heq⟩ := Option.map_eq_some_iff.1 h
  obtain ⟨rfl, rfl, rfl⟩ : x.token? = token? ∧ x.taken = taken ∧ x.rest = rest := by
    simpa only [Prod.mk.injEq] using heq
  cases s with
  | nil => exact absurd x.taken_append_rest (by simp [x.taken_ne_nil])
  | cons c r =>
    rw [tokensFrom, hx]
    dsimp only
    cases tokensFrom (place.advance x.taken) x.rest with
    | error e => rfl
    | ok later => cases x.token? <;> rfl

/-- A step takes a piece of text from the front and leaves the rest. -/
theorem append_of_step {s taken rest : List Char} {token? : Option Token}
    (h : step (lex? s) = some (token?, taken, rest)) : taken ++ rest = s := by
  obtain ⟨x, -, heq⟩ := Option.map_eq_some_iff.1 h
  obtain ⟨-, rfl, rfl⟩ := heq
  exact x.taken_append_rest

theorem length_lt_of_step {s taken rest : List Char} {token? : Option Token}
    (h : step (lex? s) = some (token?, taken, rest)) : rest.length < s.length := by
  obtain ⟨x, -, heq⟩ := Option.map_eq_some_iff.1 h
  obtain ⟨-, -, rfl⟩ := heq
  exact x.length_rest_lt

/-- Induction along the steps of the lexer, which take more than one character at a time: from what
    the first step leaves to the whole text, beginning where nothing is left or no token starts. -/
@[elab_as_elim]
theorem lex_induction {motive : List Char → Prop} (s : List Char) (nil : motive [])
    (stuck : ∀ (c : Char) (s : List Char), step (lex? (c :: s)) = none → motive (c :: s))
    (step : ∀ {s taken rest : List Char} {token? : Option Token},
      step (lex? s) = some (token?, taken, rest) → motive rest → motive s) : motive s := by
  cases s with
  | nil => exact nil
  | cons c s =>
    cases hstep : Cson.step (lex? (c :: s)) with
    | none => exact stuck c s hstep
    | some found =>
      obtain ⟨token?, taken, rest⟩ := found
      exact step hstep (lex_induction rest nil stuck step)
termination_by s.length
decreasing_by exact length_lt_of_step hstep

/-- Where no step is possible the source is refused. -/
theorem exists_tokensFrom_error {c : Char} {s : List Char} (h : step (lex? (c :: s)) = none)
    (place : Place) : ∃ e, tokensFrom place (c :: s) = .error e := by
  have hnone : lex? (c :: s) = none := by simpa [step] using h
  rw [tokensFrom, hnone]
  exact ⟨_, rfl⟩

/-- Alternatives are tried in order, and the first that takes something is the step. -/
theorem step_orElse {s : List Char} (x? : Option (Lexed s)) (y? : Unit → Option (Lexed s)) :
    step (x?.orElse y?) = (step x?).or (step (y? ())) := by
  cases x? <;> rfl

/-- One step as a plain result: the alternatives in the order in which they are tried. -/
theorem step_lex? (s : List Char) :
    step (lex? s) = (step (blockComment? s)).or ((step (lineComment? s)).or ((step (spaces? s)).or
      ((step (literal? s)).or ((step (number? s)).or ((step (word? s)).or
        (step (punctuation? s))))))) := by
  simp only [lex?, HOrElse.hOrElse, OrElse.orElse, step_orElse]

/-- Text that does not begin with the mark of a comment begins with no comment. -/
theorem step_blockComment?_of_ne {s : List Char} (h : s.head? ≠ some '#') :
    step (blockComment? s) = none := by
  unfold blockComment?
  split
  · exact absurd rfl h
  · rfl

theorem step_lineComment?_of_ne {s : List Char} (h : s.head? ≠ some '#') :
    step (lineComment? s) = none := by
  unfold lineComment?
  split
  · exact absurd rfl h
  · rfl

theorem step_spaces? (c : Char) (r : List Char) :
    step (spaces? (c :: r)) =
      if isSpace c then some (none, c :: r.takeWhile isSpace, r.dropWhile isSpace) else none := by
  unfold spaces?
  by_cases h : isSpace c = true <;> simp [h, step]

theorem step_literal? (s : List Char) :
    step (literal? s) = (openingQuotes? s).bind fun (delimiter, r) =>
      (literalBody delimiter.text r).map fun (raw, rest) =>
        (some (.string (literalText delimiter raw)), delimiter.text ++ raw ++ delimiter.text,
          rest) := by
  unfold literal?
  split
  · rename_i hopen
    simp [hopen, step]
  · rename_i delimiter r hopen
    split
    · rename_i hbody
      simp [hopen, hbody, step]
    · rename_i raw rest hbody
      simp [hopen, hbody, step]

/-- A number is a sign, at least one digit, and all that numbers go on with. -/
theorem step_number? (s : List Char) :
    step (number? s) =
      let r := s.drop (minusSign s).length
      let later := r.dropWhile isDigit
      if r.takeWhile isDigit = [] then none
      else
        let text := minusSign s ++ r.takeWhile isDigit ++ later.takeWhile isNumberChar
        some (some (.number (String.ofList text)), text, later.dropWhile isNumberChar) := by
  unfold number?
  dsimp only
  split <;> simp_all [step]

theorem step_word? (c : Char) (r : List Char) :
    step (word? (c :: r)) =
      if isWordStart c then
        some (some (.word (String.ofList (c :: r.takeWhile isWordChar))),
          c :: r.takeWhile isWordChar, r.dropWhile isWordChar)
      else none := by
  unfold word?
  by_cases h : isWordStart c = true <;> simp [h, step]

theorem step_punctuation? (c : Char) (r : List Char) :
    step (punctuation? (c :: r)) = (punctuation c).map fun token => (some token, [c], r) := by
  unfold punctuation?
  dsimp only
  split <;> simp_all [step]

/-- Quotes open a literal, or no token at all if they are not closed. -/
theorem step_lex?_of_openingQuotes? {s r : List Char} {delimiter : Delimiter}
    (h : openingQuotes? s = some (delimiter, r)) :
    step (lex? s) = (literalBody delimiter.text r).map fun (raw, rest) =>
      (some (.string (literalText delimiter raw)), delimiter.text ++ raw ++ delimiter.text,
        rest) := by
  have hs := append_of_openingQuotes? h
  obtain ⟨c, t, hc, hquote⟩ : ∃ c t, s = c :: t ∧ (c = '\'' ∨ c = '"') := by
    subst hs
    cases delimiter <;> simp [Delimiter.text]
  have hmark : s.head? ≠ some '#' := by
    subst hc
    rcases hquote with rfl | rfl <;> simp
  have hspaces : step (spaces? s) = none := by
    subst hc
    rw [step_spaces?, if_neg]
    rcases hquote with rfl | rfl <;> decide
  have hothers : step (number? s) = none ∧ step (word? s) = none ∧
      step (punctuation? s) = none := by
    subst hc
    rw [step_number?, step_word?, step_punctuation?]
    rcases hquote with rfl | rfl <;> simp [minusSign, isDigit, isWordStart, punctuation]
  rw [step_lex?, step_blockComment?_of_ne hmark, step_lineComment?_of_ne hmark, hspaces,
    step_literal?, h, hothers.1, hothers.2.1, hothers.2.2]
  simp

end RuleGraph.Cson
