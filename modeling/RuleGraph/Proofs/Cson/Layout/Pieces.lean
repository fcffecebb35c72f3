import RuleGraph.Proofs.Cson.Layout.Quoted
import RuleGraph.Proofs.Cson.Lexing
import RuleGraph.Proofs.Decimal.Digits

namespace RuleGraph.Cson

/-- No word, number or quote goes on with this text. -/
def Boundary (s : List Char) : Prop :=
  ∀ c ∈ s.head?, isWordChar c = false ∧ isNumberChar c = false ∧ c ≠ '\'' ∧ c ≠ '"'

/-- In front of a boundary, the text is read as these tokens, if it starts at the given place. -/
def Lexes (place : Place) (s : List Char) (ts : List Lexeme) : Prop :=
  ∀ rest, Boundary rest →
    tokensFrom place (s ++ rest) = (tokensFrom (place.advance s) rest).map (ts ++ ·)

/-- In front of everything, the text is read as these tokens, if it starts at the given place. -/
def Closed (place : Place) (s : List Char) (ts : List Lexeme) : Prop :=
  ∀ rest, tokensFrom place (s ++ rest) = (tokensFrom (place.advance s) rest).map (ts ++ ·)

@[simp] theorem Place.advance_nil (place : Place) : place.advance [] = place :=
  rfl

@[simp] theorem Place.advance_cons (place : Place) (c : Char) (s : List Char) :
    place.advance (c :: s) = (place.next c).advance s :=
  rfl

theorem Place.advance_append (place : Place) (s t : List Char) :
    place.advance (s ++ t) = (place.advance s).advance t := by
  simp [Place.advance]

theorem Place.column_advance_spaces (place : Place) (n : Nat) :
    (place.advance (spaces n)).column = place.column + n := by
  induction n generalizing place with
  | zero => rfl
  | succ n ih =>
    have hnext : (place.next ' ').column = place.column + 1 := rfl
    rw [spaces, List.replicate_succ, Place.advance_cons]
    rw [spaces] at ih
    rw [ih, hnext]
    omega

/-- Behind a line end and an indentation the column is that of the indentation. -/
theorem Place.column_advance_lineStart (place : Place) (n : Nat) :
    (place.advance (lineStart n)).column = n := by
  have hnext : (place.next '\n').column = 0 := rfl
  rw [lineStart, Place.advance_cons, Place.column_advance_spaces, hnext]
  omega

theorem Boundary.nil : Boundary [] := by
  simp [Boundary]

theorem Boundary.append {s t : List Char} (hs : Boundary s) (ht : Boundary t) :
    Boundary (s ++ t) := by
  cases s with
  | nil => exact ht
  | cons c s => exact hs

/-- A text that is not empty decides by its first character what it goes on with. -/
theorem Boundary.append_of_ne_nil {s : List Char} (hs : Boundary s) (hsome : s ≠ [])
    (t : List Char) : Boundary (s ++ t) := by
  cases s with
  | nil => exact absurd rfl hsome
  | cons c s => exact hs

theorem Boundary.cons {c : Char} (s : List Char)
    (h : isWordChar c = false ∧ isNumberChar c = false ∧ c ≠ '\'' ∧ c ≠ '"') :
    Boundary (c :: s) := by
  intro x hx
  obtain rfl := Option.some.inj hx
  exact h

theorem boundary_spaces (n : Nat) : Boundary (spaces n) := by
  cases n with
  | zero => exact .nil
  | succ n => exact .cons _ (by decide)

theorem boundary_lineStart (n : Nat) : Boundary (lineStart n) :=
  .cons _ (by decide)

theorem map_append_map (x : Except Error (List Lexeme)) (ss ts : List Lexeme) :
    (x.map (ts ++ ·)).map (ss ++ ·) = x.map (ss ++ ts ++ ·) := by
  cases x with
  | error e => rfl
  | ok later => simp [Except.map]

theorem map_append_eq_ok {x : Except Error (List Lexeme)} {front ts : List Lexeme}
    (h : x.map (front ++ ·) = .ok ts) : ∃ later, x = .ok later ∧ ts = front ++ later := by
  cases x with
  | error e => cases h
  | ok later => exact ⟨later, rfl, (Except.ok.inj h).symm⟩

theorem closed_nil (place : Place) : Closed place [] [] := by
  intro rest
  rw [Place.advance_nil, List.nil_append]
  cases tokensFrom place rest <;> rfl

/-- What is read alike in front of everything is read so in front of what does not go on with it. -/
theorem Closed.lexes {place : Place} {s : List Char} {ts : List Lexeme} (h : Closed place s ts) :
    Lexes place s ts :=
  fun rest _ => h rest

/-- Pieces that are read alike in front of everything can be put together. -/
theorem Closed.append {place : Place} {s t : List Char} {ss ts : List Lexeme}
    (hs : Closed place s ss) (ht : Closed (place.advance s) t ts) :
    Closed place (s ++ t) (ss ++ ts) := by
  intro rest
  rw [List.append_assoc, hs, ht rest, Place.advance_append, map_append_map]

/-- Behind a closed piece any other piece can be read. -/
theorem Closed.append_lexes {place : Place} {s t : List Char} {ss ts : List Lexeme}
    (hs : Closed place s ss) (ht : Lexes (place.advance s) t ts) :
    Lexes place (s ++ t) (ss ++ ts) := by
  intro rest hrest
  rw [List.append_assoc, hs, ht rest hrest, Place.advance_append, map_append_map]

namespace Lexes

/-- Two pieces are read one after the other if the second does not go on with the first. -/
theorem append {place : Place} {s t : List Char} {ss ts : List Lexeme} (hs : Lexes place s ss)
    (hboundary : Boundary t) (ht : Lexes (place.advance s) t ts) :
    Lexes place (s ++ t) (ss ++ ts) := by
  intro rest hrest
  rw [List.append_assoc, hs _ (hboundary.append hrest), ht rest hrest, Place.advance_append,
    map_append_map]

/-- A whole text has the tokens of its only piece. -/
theorem tokensFrom_eq {place : Place} {s : List Char} {ts : List Lexeme} (h : Lexes place s ts) :
    tokensFrom place s = .ok ts := by
  have heq := h [] .nil
  rw [List.append_nil, tokensFrom_nil] at heq
  simpa [Except.map] using heq

end Lexes

/-- A run of blanks is one step and makes no token. -/
theorem step_lex?_of_isSpace {c : Char} (h : isSpace c = true) (s : List Char) :
    step (lex? (c :: s)) = some (none, c :: s.takeWhile isSpace, s.dropWhile isSpace) := by
  have hmark : (c :: s).head? ≠ some '#' := by
    intro heq
    obtain rfl := Option.some.inj heq
    exact absurd h (by decide)
  rw [step_lex?, step_blockComment?_of_ne hmark, step_lineComment?_of_ne hmark, step_spaces?,
    if_pos h]
  rfl

@[simp] theorem map_nil_append (x : Except Error (List Lexeme)) : x.map ([] ++ ·) = x := by
  cases x <;> rfl

/-- A blank can be taken alone: what is left of a run of blanks makes no token either. -/
theorem tokensFrom_space {c : Char} (h : isSpace c = true) (place : Place) (s : List Char) :
    tokensFrom place (c :: s) = tokensFrom (place.next c) s := by
  rw [tokensFrom_eq_of_step (step_lex?_of_isSpace h s), Place.advance_cons]
  refine (map_nil_append _).trans ?_
  -- The lexer takes the whole run at once, and what follows the first blank starts a shorter run.
  cases s with
  | nil => rfl
  | cons d s =>
    by_cases hd : isSpace d = true
    · rw [tokensFrom_eq_of_step (step_lex?_of_isSpace hd s), List.takeWhile_cons_of_pos hd,
        List.dropWhile_cons_of_pos hd]
      exact (map_nil_append _).symm
    · rw [List.takeWhile_cons_of_neg hd, List.dropWhile_cons_of_neg hd]
      rfl

/-- Blanks only move the place of the tokens behind them. -/
theorem tokensFrom_blanks {s : List Char} (h : ∀ c ∈ s, isSpace c = true) (place : Place)
    (rest : List Char) : tokensFrom place (s ++ rest) = tokensFrom (place.advance s) rest := by
  induction s generalizing place with
  | nil => rfl
  | cons c s ih =>
    rw [List.cons_append, tokensFrom_space (h c List.mem_cons_self),
      ih fun d hd => h d (List.mem_cons_of_mem c hd)]
    rfl

theorem tokensFrom_spaces (place : Place) (n : Nat) (s : List Char) :
    tokensFrom place (spaces n ++ s) = tokensFrom (place.advance (spaces n)) s :=
  tokensFrom_blanks (fun c hc => by rw [List.eq_of_mem_replicate hc]; rfl) place s

/-- Spaces make no tokens. -/
theorem closed_spaces (place : Place) (n : Nat) : Closed place (spaces n) [] := by
  intro rest
  rw [tokensFrom_spaces]
  cases tokensFrom (place.advance (spaces n)) rest <;> rfl

/-- Punctuation is a token of one character. -/
theorem step_lex?_of_punctuation {c : Char} {token : Token} (h : punctuation c = some token)
    (s : List Char) : step (lex? (c :: s)) = some (some token, [c], s) := by
  have hmark : (c :: s).head? ≠ some '#' := by
    intro heq
    obtain rfl := Option.some.inj heq
    exact absurd h (by simp [punctuation])
  have hnone : step (spaces? (c :: s)) = none ∧ step (literal? (c :: s)) = none ∧
      step (number? (c :: s)) = none ∧ step (word? (c :: s)) = none := by
    rw [step_spaces?, step_literal?, step_number?, step_word?]
    unfold punctuation at h
    split at h <;> simp_all [isSpace, openingQuotes?, minusSign, isDigit, isWordStart]
  obtain ⟨hspaces, hliteral, hnumber, hword⟩ := hnone
  rw [step_lex?, step_blockComment?_of_ne hmark, step_lineComment?_of_ne hmark, hspaces, hliteral,
    hnumber, hword, step_punctuation?, h]
  rfl

/-- A character that is a token by itself. -/
theorem closed_punctuation {c : Char} {token : Token} (h : punctuation c = some token)
    (place : Place) : Closed place [c] [⟨token, place⟩] := by
  intro rest
  exact tokensFrom_eq_of_step (step_lex?_of_punctuation h rest) place

/-- Of the start of a line only the line end in front of it is a token. -/
theorem closed_lineStart (place : Place) (n : Nat) :
    Closed place (lineStart n) [⟨.newline, place⟩] := by
  have hline := closed_punctuation (c := '\n') rfl place
  exact hline.append (closed_spaces _ n)

end RuleGraph.Cson
