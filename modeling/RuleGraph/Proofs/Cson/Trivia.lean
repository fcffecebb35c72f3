import RuleGraph.Proofs.Cson.LineEnds.Tokens

namespace RuleGraph.Cson

open RuleGraph.Text

/-- A comment between three marks. -/
def blockComment (body : List Char) : List Char :=
  ['#', '#', '#'] ++ (body ++ ['#', '#', '#'])

/-- What may stand next to tokens: blanks, comments between three marks, and, only if the line ends
behind it, a comment up to the end of the line. -/
inductive Trivia (lineEnds : Prop) : List Char → Prop where
  | nil : Trivia lineEnds []
  | blank {c : Char} {s : List Char} (hc : isSpace c = true) (h : Trivia lineEnds s) :
      Trivia lineEnds (c :: s)
  | block {body s : List Char} (hsome : body ≠ []) (hmark : '#' ∉ body) (h : Trivia lineEnds s) :
      Trivia lineEnds (blockComment body ++ s)
  | line {text : List Char} (hend : lineEnds) (hline : '\n' ∉ text) (hmark : text.head? ≠ some '#') :
      Trivia lineEnds ('#' :: text)

/-- A character between double quotes. -/
def escapedInQuotes (c : Char) : List Char :=
  if c = '\\' ∨ c = '"' then ['\\', c] else if c = '\n' then ['\\', 'n'] else [c]

namespace Token

/-- The token as it is written. -/
def written : Token → List Char
  | .openBrace => ['\x7b']
  | .closeBrace => ['\x7d']
  | .openBracket => ['[']
  | .closeBracket => [']']
  | .colon => [':']
  | .comma => [',']
  | .newline => ['\n']
  | .string text => '"' :: (text.toList.flatMap escapedInQuotes ++ ['"'])
  | .number text | .word text => text.toList

/-- The text of the token is one that its kind can have. -/
def Writable : Token → Prop
  | .number text => NumberText text.toList
  | .word text => WordText text.toList
  | _ => True

end Token

/-- Next comes a line end or the end of the source. -/
def EndsLine (ts : List Token) : Prop :=
  ∀ t ∈ ts.head?, t = .newline

/-- The tokens as they are written, with trivia behind each of them, and some between any two. -/
inductive Printed : List Token → List Char → Prop where
  | nil : Printed [] []
  | cons {t : Token} {ts : List Token} {gap s : List Char} (hgap : Trivia (EndsLine ts) gap)
      (hsome : ts ≠ [] → gap ≠ []) (h : Printed ts s) : Printed (t :: ts) (t.written ++ (gap ++ s))

theorem spells_escapedInQuotes : Spells '"' escapedInQuotes := by
  intro c
  unfold escapedInQuotes
  by_cases hpair : c = '\\' ∨ c = '"'
  · rw [if_pos hpair]
    refine .inr ⟨c, rfl, ?_⟩
    rcases hpair with rfl | rfl <;> decide
  · rw [if_neg hpair]
    by_cases hline : c = '\n'
    · subst hline
      exact .inr ⟨'n', rfl, by decide⟩
    · rw [if_neg hline]
      exact .inl ⟨rfl, fun h => hpair (.inl h), fun h => hpair (.inr h), hline⟩

/-- One mark does not start a comment over several lines. -/
theorem step_blockComment?_of_ne_second {s : List Char} (h : s.head? ≠ some '#') :
    step (blockComment? ('#' :: s)) = none := by
  rw [step_blockComment?, if_neg]
  rintro ⟨⟨r, hr⟩, -⟩
  rw [← (List.cons.inj hr).2] at h
  exact h rfl

/-- A comment between three marks is taken as a whole if it has no mark in it. -/
theorem tokensFrom_blockComment {body : List Char} (hsome : body ≠ []) (hmark : '#' ∉ body)
    (place : Place) (rest : List Char) :
    tokensFrom place (blockComment body ++ rest) =
      tokensFrom (place.advance (blockComment body)) rest := by
  obtain ⟨first, others, rfl⟩ := List.exists_cons_of_ne_nil hsome
  have hfirst : first ≠ '#' := by
    rintro rfl
    exact hmark List.mem_cons_self
  have hout : ∀ c ∈ first :: others, c ∉ ['#', '#', '#'] := by
    intro c hc hmem
    obtain rfl : c = '#' := by simpa using hmem
    exact hmark hc
  have hsplit : splitAtMark ['#', '#', '#'] (first :: others ++ (['#', '#', '#'] ++ rest)) =
      some (first :: others, rest) := by
    rw [splitAtMark_append (by simp) hout]
    simp [splitAtMark]
  have hcomment : blockComment (first :: others) ++ rest =
      '#' :: '#' :: '#' :: (first :: others ++ (['#', '#', '#'] ++ rest)) := by
    simp [blockComment]
  have hstep : step (lex? (blockComment (first :: others) ++ rest)) =
      some (none, blockComment (first :: others), rest) := by
    rw [step_lex?, hcomment, step_blockComment?, if_pos ⟨⟨_, rfl⟩, by simpa using hfirst⟩]
    simp only [List.drop_succ_cons, List.drop_zero, hsplit]
    rfl
  rw [tokensFrom_eq_of_step hstep]
  exact map_nil_append _

/-- Trivia make no tokens. -/
theorem Trivia.skipped {lineEnds : Prop} {gap : List Char} (h : Trivia lineEnds gap)
    {rest : List Char} (hrest : lineEnds → ∀ c ∈ rest.head?, c = '\n') (place : Place) :
    tokensFrom place (gap ++ rest) = tokensFrom (place.advance gap) rest := by
  induction h generalizing place with
  | nil => rfl
  | blank hc _ ih =>
    rw [List.cons_append, tokensFrom_space hc, ih, Place.advance_cons]
  | block hsome hmark _ ih =>
    rw [List.append_assoc, tokensFrom_blockComment hsome hmark, ih, Place.advance_append]
  | @line text hend hline hmark =>
    have hnext := hrest hend
    have hblock : step (blockComment? ('#' :: (text ++ rest))) = none := by
      apply step_blockComment?_of_ne_second
      cases text with
      | nil =>
        intro hhead
        exact absurd (hnext '#' hhead) (by decide)
      | cons c text => exact hmark
    have hplain : ∀ c ∈ text, decide (c ≠ '\n') = true := by
      intro c hc
      rw [decide_eq_true_iff]
      rintro rfl
      exact hline hc
    obtain ⟨htake, hdrop⟩ := takeWhile_run hplain fun c hc => by simp [hnext c hc]
    rw [List.cons_append, tokensFrom_lineComment hblock, htake, hdrop]

/-- No word, number or text goes on with what starts like this. -/
theorem Trivia.apart {lineEnds : Prop} {gap : List Char} (h : Trivia lineEnds gap) :
    ∀ c ∈ gap.head?, isWordChar c = false ∧ isNumberChar c = false ∧ c ≠ '"' := by
  intro c hc
  cases h with
  | nil => cases hc
  | blank hspace =>
    obtain rfl := Option.some.inj hc
    simp only [isSpace, Bool.or_eq_true, decide_eq_true_eq] at hspace
    obtain (rfl | rfl) | rfl := hspace <;> decide
  | block | line =>
    obtain rfl := Option.some.inj hc
    decide

/-- A token that is written in front of trivia is found again. -/
theorem Token.Writable.tokensFrom {t : Token} (h : t.Writable) {rest : List Char}
    (hrest : ∀ c ∈ rest.head?, isWordChar c = false ∧ isNumberChar c = false ∧ c ≠ '"')
    (place : Place) :
    Cson.tokensFrom place (t.written ++ rest) =
      (Cson.tokensFrom (place.advance t.written) rest).map ([⟨t, place⟩] ++ ·) := by
  cases t with
  | string text =>
    have hquote : rest.head? ≠ some '"' := fun hhead => (hrest '"' hhead).2.2 rfl
    have htext : Delimiter.double.text = ['"'] := rfl
    exact tokensFrom_spelled spells_escapedInQuotes htext (by decide) text hquote place
  | number text =>
    have htokens := tokensFrom_number h (fun c hc => (hrest c hc).2.1) place
    rwa [String.ofList_toList] at htokens
  | word text =>
    have htokens := tokensFrom_word h (fun c hc => (hrest c hc).1) place
    rwa [String.ofList_toList] at htokens
  | _ => exact closed_punctuation rfl place rest

/-- What is printed for tokens that end a line starts with a line end. -/
theorem Printed.head_of_endsLine {ts : List Token} {s : List Char} (h : Printed ts s)
    (hends : EndsLine ts) : ∀ c ∈ s.head?, c = '\n' := by
  intro c hc
  cases h with
  | nil => cases hc
  | cons hgap hsome h =>
    obtain rfl := hends _ rfl
    exact (Option.some.inj hc).symm

/-- No token and no comment swallows or splits what stands next to it, so the lexer finds the tokens
    again. -/
theorem Printed.exists_tokensFrom {ts : List Token} {s : List Char} (h : Printed ts s)
    (hts : ∀ t ∈ ts, t.Writable) (place : Place) :
    ∃ found, tokensFrom place s = .ok found ∧ found.map Lexeme.token = ts := by
  induction h generalizing place with
  | nil => exact ⟨[], tokensFrom_nil place, rfl⟩
  | @cons t ts gap s hgap hsome h ih =>
    obtain ⟨ht, hlater⟩ := List.forall_mem_cons.1 hts
    have hapart : ∀ c ∈ (gap ++ s).head?,
        isWordChar c = false ∧ isNumberChar c = false ∧ c ≠ '"' := by
      cases gap with
      | nil =>
        obtain rfl : ts = [] := by
          by_contra hne
          exact hsome hne rfl
        cases h
        simp
      | cons d gap => exact hgap.apart
    obtain ⟨found, hfound, htokens⟩ := ih hlater ((place.advance t.written).advance gap)
    refine ⟨⟨t, place⟩ :: found, ?_, by rw [List.map_cons, htokens]⟩
    rw [ht.tokensFrom hapart, hgap.skipped h.head_of_endsLine, hfound]
    rfl

/-- Printed with any trivia, tokens are found again as they were. -/
theorem tokens_printed {ts : List Token} (hts : ∀ t ∈ ts, t.Writable) {gap s : List Char}
    (hgap : Trivia (EndsLine ts) gap) (h : Printed ts s) :
    ∃ found, tokens (gap ++ s) = .ok found ∧ found.map Lexeme.token = ts := by
  rw [tokens, hgap.skipped h.head_of_endsLine]
  exact h.exists_tokensFrom hts _

/-- A comment over two lines, a comment at the end of a line, and one blank at the other places. -/
theorem tokens_printed_commented :
    let ts : List Token := [.word "a", .colon, .string "\"\n", .newline, .number "-1e5"]
    (∀ t ∈ ts, t.Writable) ∧
      ∃ found, tokens "###\n###a :\t\"\\\"\\n\"#end\n\r-1e5".toList = .ok found ∧
        found.map Lexeme.token = ts := by
  intro ts
  have hnumber : NumberText (['-'] ++ (['1'] ++ ['e', '5'])) :=
    .intro (.inr rfl) (by simp) (by simp [isDigit]) (by simp [isNumberChar])
  have hword : WordText ['a'] := .intro rfl (List.forall_mem_nil _)
  have hts : ∀ t ∈ ts, t.Writable := by
    simp only [ts, List.forall_mem_cons, List.not_mem_nil, false_implies, implies_true, and_true]
    exact ⟨hword, trivial, trivial, trivial, hnumber⟩
  have hgap : Trivia (EndsLine ts) (blockComment ['\n'] ++ []) :=
    .block (by simp) (by simp) .nil
  have hnumberLast : Printed [.number "-1e5"] _ := .cons .nil (by simp) .nil
  have hline : Printed [.newline, .number "-1e5"] _ :=
    .cons (.blank (c := '\r') rfl .nil) (by simp) hnumberLast
  have hcomment : Trivia (EndsLine [.newline, .number "-1e5"]) ('#' :: ['e', 'n', 'd']) :=
    .line (fun t ht => (Option.some.inj ht).symm) (by simp) (by simp)
  have hstring : Printed (.string "\"\n" :: [.newline, .number "-1e5"]) _ :=
    .cons hcomment (by simp) hline
  have hprinted : Printed ts _ :=
    .cons (.blank (c := ' ') rfl .nil) (by simp)
      (.cons (.blank (c := '\t') rfl .nil) (by simp) hstring)
  exact ⟨hts, tokens_printed hts hgap hprinted⟩

/-- Comments make no token. -/
theorem token?_eq_none_of_comment {s taken rest : List Char} {token? : Option Token}
    (h : step (lex? ('#' :: s)) = some (token?, taken, rest)) : token? = none := by
  cases hblock : step (blockComment? ('#' :: s)) with
  | none =>
    rw [step_lex?_lineComment hblock] at h
    obtain ⟨rfl, -⟩ := h
    rfl
  | some found =>
    rw [step_lex?, hblock, Option.some_or] at h
    obtain rfl := Option.some.inj h
    exact token?_of_blockComment hblock

theorem minusSign_eq (s : List Char) : minusSign s = [] ∨ minusSign s = ['-'] := by
  unfold minusSign
  split
  · exact .inr rfl
  · exact .inl rfl

/-- What is lexed as a number has the text of one. -/
theorem writable_of_step_number? {s taken rest : List Char} {t : Token}
    (h : step (number? s) = some (some t, taken, rest)) : t.Writable := by
  rw [step_number?] at h
  obtain ⟨hsome, hfound⟩ := Option.ite_none_left_eq_some.1 h
  obtain ⟨rfl, -⟩ := hfound
  rw [Token.Writable, String.toList_ofList, List.append_assoc]
  exact .intro (minusSign_eq s) hsome (fun _ hc => List.mem_takeWhile_imp hc)
    fun _ hc => List.mem_takeWhile_imp hc

theorem writable_of_step_word? {c : Char} {s taken rest : List Char} {t : Token}
    (h : step (word? (c :: s)) = some (some t, taken, rest)) : t.Writable := by
  rw [step_word?] at h
  obtain ⟨hstart, hfound⟩ := Option.ite_none_right_eq_some.1 h
  obtain ⟨rfl, -⟩ := hfound
  rw [Token.Writable, String.toList_ofList]
  exact .intro hstart fun _ hc => List.mem_takeWhile_imp hc

theorem writable_of_punctuation {c : Char} {t : Token} (h : punctuation c = some t) :
    t.Writable := by
  unfold punctuation at h
  split at h <;> cases h <;> trivial

/-- Whatever a step finds is a token that can be written. -/
theorem writable_of_step {s taken rest : List Char} {t : Token}
    (h : step (lex? s) = some (some t, taken, rest)) : t.Writable := by
  cases s with
  | nil => cases h
  | cons c s =>
    cases front_cons c s with
    | newline =>
      rw [step_lex?_of_punctuation rfl] at h
      obtain ⟨rfl, -⟩ := h
      trivial
    | blank hblank =>
      rw [step_lex?_of_isSpace hblank] at h
      cases h
    | comment => cases token?_eq_none_of_comment h
    | quotes hopen =>
      rw [step_lex?_of_openingQuotes? hopen] at h
      obtain ⟨body, -, heq⟩ := Option.map_eq_some_iff.1 h
      obtain ⟨rfl, -⟩ := heq
      trivial
    | plain _ hplain =>
      rw [step_lex?_of_plain _ hplain, Option.or_eq_some_iff, Option.or_eq_some_iff] at h
      obtain hnumber | ⟨-, hword | ⟨-, hpunctuation⟩⟩ := h
      · exact writable_of_step_number? hnumber
      · exact writable_of_step_word? hword
      · rw [step_punctuation?] at hpunctuation
        obtain ⟨token, htoken, heq⟩ := Option.map_eq_some_iff.1 hpunctuation
        obtain ⟨rfl, -⟩ := heq
        exact writable_of_punctuation htoken

/-- All tokens of a source can be written. -/
theorem writable_of_mem_tokensFrom {place : Place} {s : List Char} {ts : List Lexeme}
    (h : tokensFrom place s = .ok ts) : ∀ x ∈ ts, x.token.Writable := by
  induction s using lex_induction generalizing place ts with
  | nil =>
    rw [tokensFrom_nil] at h
    obtain rfl := Except.ok.inj h
    exact List.forall_mem_nil _
  | stuck c s hstep =>
    obtain ⟨e, he⟩ := exists_tokensFrom_error hstep place
    rw [he] at h
    cases h
  | @step s taken rest token? hstep ih =>
    rw [tokensFrom_eq_of_step hstep] at h
    obtain ⟨later, hlater, rfl⟩ := map_append_eq_ok h
    intro x hx
    rcases List.mem_append.1 hx with hx | hx
    · cases token? with
      | none => cases hx
      | some token =>
        obtain rfl := List.mem_singleton.1 hx
        exact writable_of_step hstep
    · exact ih hlater x hx

end RuleGraph.Cson
