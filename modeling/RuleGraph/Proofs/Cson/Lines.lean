import Mathlib
import RuleGraph.Proofs.Cson.Json.Scalars
import RuleGraph.Proofs.Cson.LineEnds.Tokens

namespace RuleGraph.Cson

open RuleGraph.Text

/-- The place behind the whole source: all its bytes, and those behind its last line feed. -/
def endPlace (source : List Char) : Place :=
  ⟨byteLength source, byteLength (source.rtakeWhile (· ≠ '\n'))⟩

/-- The place with `n` more bytes before it, none of them on its own line. -/
def Place.shift (n : Nat) (place : Place) : Place :=
  { place with offset := place.offset + n }

def Lexeme.shift (n : Nat) (x : Lexeme) : Lexeme :=
  { x with place := x.place.shift n }

def Error.shift (n : Nat) (e : Error) : Error :=
  { e with offset := e.offset + n }

def shiftTokens (n : Nat) : Except Error (List Lexeme) → Except Error (List Lexeme)
  | .ok ts => .ok (ts.map (Lexeme.shift n))
  | .error e => .error (e.shift n)

theorem Place.next_shift (n : Nat) (place : Place) (c : Char) :
    (place.shift n).next c = (place.next c).shift n := by
  simp only [Place.next, Place.shift]
  split
  · rw [Nat.add_right_comm]
  · rw [Nat.add_right_comm]

/-- A shift is kept by whatever is read behind it. -/
theorem Place.advance_shift (n : Nat) (place : Place) (s : List Char) :
    (place.shift n).advance s = (place.advance s).shift n := by
  induction s generalizing place with
  | nil => rfl
  | cons c s ih => rw [Place.advance_cons, Place.advance_cons, Place.next_shift, ih]

theorem lexemeAt_shift (n : Nat) (place : Place) (token? : Option Token) :
    lexemeAt (place.shift n) token? = (lexemeAt place token?).map (Lexeme.shift n) := by
  cases token? <;> rfl

theorem shiftTokens_append (n : Nat) (ts : List Lexeme) (x : Except Error (List Lexeme)) :
    shiftTokens n (x.map (ts ++ ·)) = (shiftTokens n x).map (ts.map (Lexeme.shift n) ++ ·) := by
  cases x with
  | error e => rfl
  | ok later => simp [Except.map, shiftTokens]

/-- What is read hangs on the offset of the source only by the offsets of what is found. -/
theorem tokensFrom_shift (n : Nat) (place : Place) (s : List Char) :
    tokensFrom (place.shift n) s = shiftTokens n (tokensFrom place s) := by
  induction s using lex_induction generalizing place with
  | nil =>
    rw [tokensFrom_nil, tokensFrom_nil]
    rfl
  | stuck c s hstep =>
    have hnone : lex? (c :: s) = none := by simpa [step] using hstep
    rw [tokensFrom, tokensFrom, hnone]
    rfl
  | step hstep ih =>
    rw [tokensFrom_eq_of_step hstep, tokensFrom_eq_of_step hstep, Place.advance_shift, ih,
      lexemeAt_shift, shiftTokens_append]

theorem byteLength_append (s t : List Char) :
    byteLength (s ++ t) = byteLength s + byteLength t := by
  induction s with
  | nil => simp [byteLength]
  | cons c s ih =>
    simp only [byteLength, List.cons_append, List.foldr_cons] at ih ⊢
    omega

/-- Counting from the start of the source gives the same place as looking back for a line feed. -/
theorem advance_start (source : List Char) : Place.advance {} source = endPlace source := by
  induction source using List.reverseRecOn with
  | nil => rfl
  | append_singleton s c ih =>
    have hlength : byteLength (s ++ [c]) = byteLength s + c.utf8Size := byteLength_append s [c]
    rw [Place.advance_append, ih, endPlace, endPlace, hlength]
    by_cases hc : c = '\n'
    · subst hc
      rw [List.rtakeWhile_concat_neg _ _ _ (by simp)]
      rfl
    · have hlast : byteLength (s.rtakeWhile (· ≠ '\n') ++ [c]) =
          byteLength (s.rtakeWhile (· ≠ '\n')) + c.utf8Size := byteLength_append _ [c]
      rw [List.rtakeWhile_concat_pos _ _ _ (by simpa using hc), hlast]
      simp only [Place.advance_cons, Place.advance_nil, Place.next, if_neg hc]

section Seam

variable {s t : List Char}

/-- A mark without line feeds does not reach over one. -/
theorem prefix_append_newline {mark : List Char} (h : '\n' ∉ mark) :
    mark <+: s ++ '\n' :: t ↔ mark <+: s := by
  refine ⟨fun hmark => ?_, fun hmark => hmark.trans (List.prefix_append _ _)⟩
  induction mark generalizing s with
  | nil => exact List.nil_prefix
  | cons m mark ih =>
    rw [List.mem_cons, not_or] at h
    cases s with
    | nil =>
      rw [List.nil_append, List.cons_prefix_cons] at hmark
      exact absurd hmark.1.symm h.1
    | cons c s =>
      rw [List.cons_append, List.cons_prefix_cons] at hmark
      exact List.cons_prefix_cons.2 ⟨hmark.1, ih h.2 hmark.2⟩

/-- Opening quotes are found without what stands behind the line feed. -/
theorem openingQuotes?_append_newline {r : List Char} {delimiter : Delimiter}
    (h : openingQuotes? s = some (delimiter, r)) :
    openingQuotes? (s ++ '\n' :: t) = some (delimiter, r ++ '\n' :: t) := by
  have hs : s ++ '\n' :: t = delimiter.text ++ (r ++ '\n' :: t) := by
    rw [← append_of_openingQuotes? h, List.append_assoc]
  rw [hs]
  refine openingQuotes?_of_prefix_iff (fun other => ?_) h
  rw [← hs]
  exact prefix_append_newline other.not_mem_text.1

/-- A literal that is closed stays closed at the same place. -/
theorem literalBody_append_newline {delimiter : Delimiter} {body rest : List Char}
    (h : literalBody delimiter.text s = some (body, rest)) :
    literalBody delimiter.text (s ++ '\n' :: t) = some (body, rest ++ '\n' :: t) := by
  fun_induction literalBody delimiter.text s generalizing body with
  | case1 => cases h
  | case2 c s ih =>
    obtain ⟨⟨b, r⟩, hb, he⟩ := Option.map_eq_some_iff.1 h
    obtain ⟨rfl, rfl⟩ := Prod.mk.inj he
    rw [List.cons_append, List.cons_append, literalBody_backslash, ih hb]
    rfl
  | case3 c s hpair hclose =>
    obtain ⟨rfl, rfl⟩ := Prod.mk.inj (Option.some.inj h)
    have hclose' := (prefix_append_newline (t := t) delimiter.not_mem_text.1).2 hclose
    rw [List.cons_append] at hclose' ⊢
    rw [literalBody, if_pos hclose', ← List.cons_append,
      List.drop_append_of_le_length hclose.length_le]
    rintro d r rfl -
    exact not_prefix_cons delimiter.text_ne_nil delimiter.backslash_not_mem_text _ hclose
  | case4 c s hpair hopen ih =>
    obtain ⟨⟨b, r⟩, hb, he⟩ := Option.map_eq_some_iff.1 h
    obtain ⟨rfl, rfl⟩ := Prod.mk.inj he
    have hback : c ≠ '\\' := by
      rintro rfl
      cases s with
      | nil => cases hb
      | cons d s => exact hpair d s rfl rfl
    have hopen' := mt (prefix_append_newline (t := t) delimiter.not_mem_text.1).1 hopen
    rw [List.cons_append] at hopen' ⊢
    rw [literalBody_of_not_closing hback hopen', ih hb]
    rfl

/-- A sign is looked for within the line. -/
theorem minusSign_append_newline : minusSign (s ++ '\n' :: t) = minusSign s := by
  cases s with
  | nil => rfl
  | cons c s =>
    by_cases hc : c = '-'
    · rw [hc]
      rfl
    · rw [List.cons_append, minusSign_of_ne hc, minusSign_of_ne hc]

/-- A run of characters that are no line feeds does not go on behind one. -/
theorem run_append_newline {p : Char → Bool} (hp : p '\n' = false) (s t : List Char) :
    (s ++ '\n' :: t).takeWhile p = s.takeWhile p ∧
      (s ++ '\n' :: t).dropWhile p = s.dropWhile p ++ '\n' :: t :=
  takeWhile_append_stop (fun c hc => by rw [← Option.some.inj hc, hp]) s

/-- The same step, which leaves more over. -/
def leavingMore (more : List Char) :
    Option Token × List Char × List Char → Option Token × List Char × List Char
  | (token?, taken, rest) => (token?, taken, rest ++ more)

/-- A number does not reach over the line feed. -/
theorem step_number?_append_newline :
    step (number? (s ++ '\n' :: t)) = (step (number? s)).map (leavingMore ('\n' :: t)) := by
  have hsign : (minusSign s).length ≤ s.length := by
    have hlength := congrArg List.length (minusSign_append_drop s)
    rw [List.length_append] at hlength
    omega
  obtain ⟨hdigits, hlater⟩ := run_append_newline (p := isDigit) rfl (s.drop (minusSign s).length) t
  obtain ⟨hmore, hrest⟩ := run_append_newline (p := isNumberChar) rfl
    ((s.drop (minusSign s).length).dropWhile isDigit) t
  rw [step_number?, step_number?, minusSign_append_newline, List.drop_append_of_le_length hsign]
  simp only [hdigits, hlater, hmore, hrest]
  split <;> rfl

theorem step_word?_append_newline (c : Char) :
    step (word? (c :: (s ++ '\n' :: t))) =
      (step (word? (c :: s))).map (leavingMore ('\n' :: t)) := by
  obtain ⟨htext, hrest⟩ := run_append_newline (p := isWordChar) rfl s t
  rw [step_word?, step_word?, htext, hrest]
  split <;> rfl

theorem step_punctuation?_append (c : Char) (more : List Char) :
    step (punctuation? (c :: (s ++ more))) =
      (step (punctuation? (c :: s))).map (leavingMore more) := by
  rw [step_punctuation?, step_punctuation?, Option.map_map]
  rfl

/-- A step that no block comment starts with is made as well in front of a line feed. -/
theorem step_lex?_append_newline (hmark : ¬['#', '#', '#'] <+: s) {token? : Option Token}
    {taken rest : List Char} (h : step (lex? s) = some (token?, taken, rest)) :
    step (lex? (s ++ '\n' :: t)) = some (token?, taken, rest ++ '\n' :: t) := by
  cases s with
  | nil => cases h
  | cons c s =>
    rw [List.cons_append]
    cases front_cons c s with
    | newline =>
      rw [step_lex?_of_punctuation rfl] at h ⊢
      obtain ⟨rfl, rfl, rfl⟩ := h
      rfl
    | blank hblank =>
      obtain ⟨htake, hdrop⟩ := run_append_newline (p := isSpace) rfl s t
      rw [step_lex?_of_isSpace hblank] at h ⊢
      obtain ⟨rfl, rfl, rfl⟩ := h
      rw [htake, hdrop]
    | comment =>
      have hblock : step (blockComment? ('#' :: s)) = none := by
        rw [step_blockComment?, if_neg fun hmarks => hmark hmarks.1]
      have hmark' : ¬['#', '#', '#'] <+: '#' :: (s ++ '\n' :: t) :=
        mt (prefix_append_newline (s := '#' :: s) (by decide)).1 hmark
      have hblock' : step (blockComment? ('#' :: (s ++ '\n' :: t))) = none := by
        rw [step_blockComment?, if_neg fun hmarks => hmark' hmarks.1]
      obtain ⟨htake, hdrop⟩ := run_append_newline (p := (· ≠ '\n')) (by simp) s t
      rw [step_lex?_lineComment hblock] at h
      obtain ⟨rfl, rfl, rfl⟩ := h
      rw [step_lex?_lineComment hblock', htake, hdrop]
    | quotes hopen =>
      rw [step_lex?_of_openingQuotes? hopen] at h
      obtain ⟨⟨raw, rest'⟩, hbody, heq⟩ := Option.map_eq_some_iff.1 h
      obtain ⟨rfl, rfl, rfl⟩ := heq
      rw [← List.cons_append, step_lex?_of_openingQuotes? (openingQuotes?_append_newline hopen),
        literalBody_append_newline hbody]
      rfl
    | plain hline hplain =>
      have hnumber := step_number?_append_newline (s := c :: s) (t := t)
      rw [List.cons_append] at hnumber
      have hsame : step (lex? (c :: (s ++ '\n' :: t))) =
          (step (lex? (c :: s))).map (leavingMore ('\n' :: t)) := by
        rw [step_lex?_of_plain _ hplain, step_lex?_of_plain _ hplain, hnumber,
          step_word?_append_newline, step_punctuation?_append, Option.map_or, Option.map_or]
      rw [hsame, h]
      rfl

end Seam

/-- What is read up to the end of a source is read in front of a line feed as well. -/
theorem tokensFrom_append_newline {s : List Char} (hmark : ¬['#', '#', '#'] <:+: s)
    {place : Place} {ts : List Lexeme} (h : tokensFrom place s = .ok ts) (t : List Char) :
    tokensFrom place (s ++ '\n' :: t) =
      (tokensFrom (place.advance s) ('\n' :: t)).map (ts ++ ·) := by
  induction s using lex_induction generalizing place ts with
  | nil =>
    rw [tokensFrom_nil] at h
    obtain rfl := Except.ok.inj h
    exact (map_nil_append _).symm
  | stuck c s hstep =>
    obtain ⟨e, he⟩ := exists_tokensFrom_error hstep place
    rw [he] at h
    cases h
  | @step s taken rest token? hstep ih =>
    have hwhole := append_of_step hstep
    have hrest : ¬['#', '#', '#'] <:+: rest := fun hwithin =>
      hmark (hwithin.trans ⟨taken, [], by rw [List.append_nil, hwhole]⟩)
    have hstart : ¬['#', '#', '#'] <+: s := fun hfront => hmark hfront.isInfix
    rw [tokensFrom_eq_of_step hstep] at h
    obtain ⟨later, hlater, rfl⟩ := map_append_eq_ok h
    rw [tokensFrom_eq_of_step (step_lex?_append_newline hstart hstep), ih hrest hlater,
      map_append_map, ← Place.advance_append, hwhole]

/-- A source that can be read and has no mark of a block comment is read the same in front of a line
    feed, and whatever is found behind that line feed is found where it is found alone, only more
    bytes into the source. -/
theorem tokens_append_newline {s : List Char} (hmark : ¬['#', '#', '#'] <:+: s)
    {ts : List Lexeme} (h : tokens s = .ok ts) (t : List Char) :
    (∀ later, tokens t = .ok later → tokens (s ++ '\n' :: t) =
      .ok (ts ++ ⟨.newline, endPlace s⟩ :: later.map (Lexeme.shift (byteLength s + 1)))) ∧
    ∀ e, tokens t = .error e → tokens (s ++ '\n' :: t) = .error (e.shift (byteLength s + 1)) := by
  have hline := closed_punctuation (c := '\n') rfl (endPlace s) t
  have hnext : (endPlace s).advance ['\n'] = Place.shift (byteLength s + 1) {} := by
    rw [Place.advance_cons, Place.advance_nil, Place.next, if_pos rfl, Place.shift, Nat.zero_add]
    rfl
  have hwhole : tokens (s ++ '\n' :: t) =
      (shiftTokens (byteLength s + 1) (tokens t)).map (ts ++ [⟨.newline, endPlace s⟩] ++ ·) := by
    rw [List.singleton_append] at hline
    rw [tokens, tokensFrom_append_newline hmark h, advance_start, hline, hnext, tokensFrom_shift,
      map_append_map]
    rfl
  constructor
  · intro later hlater
    rw [hwhole, hlater]
    simp [shiftTokens, Except.map]
  · intro e he
    rw [hwhole, he]
    rfl

def foldedSource : List Char :=
  ['k', ':', ' ', '\'', 'é', '\n', 'y', '\'', ' ', '#', 'b']

/-- Behind a literal over two lines and a comment, a word and a character that starts no token. -/
theorem tokens_append_newline_folded :
    let ts : List Lexeme := [⟨.word "k", ⟨0, 0⟩⟩, ⟨.colon, ⟨1, 1⟩⟩, ⟨.string "é y", ⟨3, 3⟩⟩]
    ¬['#', '#', '#'] <:+: foldedSource ∧ tokens foldedSource = .ok ts ∧
      tokens (foldedSource ++ '\n' :: [' ', 'c']) =
        .ok (ts ++ [⟨.newline, ⟨12, 5⟩⟩, ⟨.word "c", ⟨14, 1⟩⟩]) ∧
      tokens (foldedSource ++ '\n' :: [' ', '@']) = .error ⟨.unexpectedCharacter, 14⟩ := by
  intro ts
  have hmark : ¬['#', '#', '#'] <:+: foldedSource := by decide
  have hread : tokens foldedSource = .ok ts := by cbv
  have hword : tokens [' ', 'c'] = .ok [⟨.word "c", ⟨1, 1⟩⟩] := by cbv
  have hnone : tokens [' ', '@'] = .error ⟨.unexpectedCharacter, 1⟩ := by cbv
  have hend : endPlace foldedSource = ⟨12, 5⟩ := by cbv
  have hlength : byteLength foldedSource = 12 := by cbv
  refine ⟨hmark, hread, ?_, ?_⟩
  · have hall := (tokens_append_newline hmark hread [' ', 'c']).1 _ hword
    rwa [hend, hlength] at hall
  · have hall := (tokens_append_newline hmark hread [' ', '@']).2 _ hnone
    rwa [hlength] at hall

end RuleGraph.Cson
