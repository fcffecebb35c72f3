import RuleGraph.Proofs.Cson.Json.Number
import RuleGraph.Proofs.Cson.Json.Text
import RuleGraph.Proofs.Cson.Lookahead
import RuleGraph.Proofs.Document.Likeness
import RuleGraph.Proofs.Json.Grammar

namespace RuleGraph.Cson

open RuleGraph.Text

/-- Two texts that a source denotes as CSON and as JSON: they are equal, or surrogate pairs are
    written in the source and come out as replacement characters. -/
def Halves (source : List Char) (text text' : String) : Prop :=
  text = text' ∨ WritesHalf source ∧ Halved text.toList text'.toList

/-- What may stand behind a value in JSON: a comma, a closing brace or bracket, or nothing. -/
def Ends (rest : List Char) : Prop :=
  ∀ c ∈ (Json.skipSpaces rest).head?, c ∈ [',', ']', '\x7d']

/-- The blanks of JSON make no other tokens than line ends. -/
theorem exists_tokensFrom_skipSpaces {s : List Char} {place : Place} {ts : List Lexeme}
    (h : tokensFrom place s = .ok ts) :
    ∃ breaks place' later, ts = breaks ++ later ∧ Newlines breaks ∧
      tokensFrom place' (Json.skipSpaces s) = .ok later := by
  induction s generalizing place ts with
  | nil => exact ⟨[], place, ts, rfl, by simp [Newlines], h⟩
  | cons c s ih =>
    by_cases hspace : isSpace c = true
    · rw [tokensFrom_space hspace] at h
      have hblank : Json.isSpace c = true := by
        simp only [isSpace, Bool.or_eq_true, decide_eq_true_eq] at hspace
        rcases hspace with (rfl | rfl) | rfl <;> rfl
      rw [Json.skipSpaces, List.dropWhile_cons_of_pos hblank]
      exact ih h
    · by_cases hline : c = '\n'
      · subst hline
        obtain ⟨later, hlater, rfl⟩ :=
          map_append_eq_ok ((closed_punctuation rfl place s).symm.trans h)
        obtain ⟨breaks, place', others, rfl, hbreaks, hothers⟩ := ih hlater
        refine ⟨⟨.newline, place⟩ :: breaks, place', others, rfl, ?_, hothers⟩
        exact List.forall_mem_cons.2 ⟨rfl, hbreaks⟩
      · have hblank : ¬Json.isSpace c = true := by
          simp only [isSpace, Bool.or_eq_true, decide_eq_true_eq, not_or] at hspace
          simp [Json.isSpace, hspace, hline]
        rw [Json.skipSpaces, List.dropWhile_cons_of_neg hblank]
        exact ⟨[], place, ts, rfl, by simp [Newlines], h⟩

/-- A sign of JSON is a token of its own. -/
theorem exists_sign {c : Char} {token : Token} (hc : punctuation c = some token)
    {s r : List Char} (hskip : Json.skipSpaces s = c :: r) {place : Place} {ts : List Lexeme}
    (h : tokensFrom place s = .ok ts) :
    ∃ breaks x place' later, ts = breaks ++ x :: later ∧ Newlines breaks ∧ x.token = token ∧
      tokensFrom place' r = .ok later := by
  obtain ⟨breaks, middle, others, rfl, hbreaks, hothers⟩ := exists_tokensFrom_skipSpaces h
  rw [hskip] at hothers
  obtain ⟨later, hlater, rfl⟩ :=
    map_append_eq_ok ((closed_punctuation hc middle r).symm.trans hothers)
  exact ⟨breaks, ⟨token, middle⟩, _, later, rfl, hbreaks, rfl, hlater⟩

theorem exists_punctuation_of_mem {c : Char} (hc : c ∈ [',', ']', '\x7d']) :
    ∃ token, punctuation c = some token ∧ token ≠ .colon := by
  simp only [List.mem_cons, List.not_mem_nil, or_false] at hc
  rcases hc with rfl | rfl | rfl <;> exact ⟨_, rfl, by decide⟩

/-- No colon stands directly behind a value. -/
theorem Ends.ne_colon {rest : List Char} (hends : Ends rest) {place : Place} {ts : List Lexeme}
    (h : tokensFrom place rest = .ok ts) : ∀ y ∈ ts.head?, y.token ≠ .colon := by
  intro y hy
  cases hskip : Json.skipSpaces rest with
  | nil =>
    obtain ⟨breaks, place', later, rfl, hbreaks, hlater⟩ := exists_tokensFrom_skipSpaces h
    rw [hskip, tokensFrom_nil] at hlater
    obtain rfl := Except.ok.inj hlater
    rw [List.append_nil] at hy
    rw [hbreaks y (List.mem_of_mem_head? hy)]
    decide
  | cons c r =>
    obtain ⟨token, htoken, hcolon⟩ := exists_punctuation_of_mem (hends c (by rw [hskip]; rfl))
    obtain ⟨breaks, x, place', later, rfl, hbreaks, hx, -⟩ := exists_sign htoken hskip h
    cases breaks with
    | nil =>
      obtain rfl := Option.some.inj hy
      rw [hx]
      exact hcolon
    | cons b breaks =>
      obtain rfl := Option.some.inj hy
      rw [hbreaks b List.mem_cons_self]
      decide

/-- Behind a value of JSON stands a blank, a comma or a closing mark, or nothing. -/
theorem Ends.mem_head {rest : List Char} (hends : Ends rest) :
    ∀ c ∈ rest.head?, c ∈ [' ', '\n', '\t', '\r', ',', ']', '\x7d'] := by
  intro c hc
  obtain ⟨r, rfl⟩ := List.head?_eq_some_iff.1 hc
  cases hblank : Json.isSpace c with
  | true =>
    simp only [Json.isSpace, Bool.or_eq_true, decide_eq_true_eq] at hblank
    rcases hblank with ((rfl | rfl) | rfl) | rfl <;> decide
  | false =>
    have hmem := hends c (by
      rw [Json.skipSpaces, List.dropWhile_cons_of_neg (by simp [hblank])]
      rfl)
    simp only [List.mem_cons, List.not_mem_nil, or_false] at hmem
    rcases hmem with rfl | rfl | rfl <;> decide

/-- What follows a value of JSON goes on with no word, number or literal of CSON. -/
theorem Ends.boundary {rest : List Char} (hends : Ends rest) :
    Boundary rest ∧ rest.head? ≠ some '"' := by
  have hhead := hends.mem_head
  refine ⟨fun c hc => ?_, fun hquote => absurd (hhead _ hquote) (by decide)⟩
  have hmem := hhead c hc
  simp only [List.mem_cons, List.not_mem_nil, or_false] at hmem
  rcases hmem with rfl | rfl | rfl | rfl | rfl | rfl | rfl <;> decide

/-- A string of JSON is one token, unless another quote follows. -/
theorem exists_string_token {source r text rest : List Char}
    (hbody : Json.stringBody r = some (text, rest)) (hr : '"' :: r <:+ source)
    (hquote : rest.head? ≠ some '"') {place : Place} {ts : List Lexeme}
    (h : tokensFrom place ('"' :: r) = .ok ts) :
    ∃ x place' later text', ts = x :: later ∧ x.token = .string text' ∧
      Halves source text' (String.ofList text) ∧ tokensFrom place' rest = .ok later ∧
      rest <:+ source := by
  obtain ⟨raw, hraw, hline, hhalved, hsame⟩ := transfers_of_stringBody hbody
  have hopen : openingQuotes? ('"' :: r) = some (.double, r) := by
    apply openingQuotes?_of_ne rfl
    rintro t rfl
    rw [Json.stringBody] at hbody
    obtain ⟨-, rfl⟩ := Prod.mk.inj (Option.some.inj hbody)
    exact hquote rfl
  have hstep := step_lex?_of_openingQuotes? hopen
  rw [Delimiter.text, hraw, Option.map_some] at hstep
  have hrest : rest <:+ source := (List.suffix_append _ _).trans (append_of_step hstep ▸ hr)
  rw [tokensFrom_eq_of_step hstep] at h
  obtain ⟨later, hlater, rfl⟩ := map_append_eq_ok h
  refine ⟨_, _, later, _, rfl, rfl, ?_, hlater, hrest⟩
  rw [literalText_of_not_mem rfl hline]
  refine hsame.imp (congrArg String.ofList) fun hhalf => ⟨?_, ?_⟩
  · have hwithin : raw <:+: '"' :: r := by
      rw [← append_of_literalBody hraw, List.append_assoc]
      exact (List.prefix_append _ _).isInfix.trans (List.suffix_cons _ _).isInfix
    exact hhalf.of_infix (hwithin.trans hr.isInfix)
  · rw [String.toList_ofList, String.toList_ofList]
    exact hhalved

/-- Nothing that starts with a sign is a colon. -/
theorem ne_colon_of_sign {s : List Char} (hs : s.head? = some '+' ∨ s.head? = some '-')
    {place : Place} {ts : List Lexeme} (h : tokensFrom place s = .ok ts) :
    ∀ y ∈ ts.head?, y.token ≠ .colon := by
  obtain ⟨c, r, rfl, hc⟩ : ∃ c r, s = c :: r ∧ (c = '+' ∨ c = '-') := by
    rcases hs with hs | hs <;> obtain ⟨r, rfl⟩ := List.head?_eq_some_iff.1 hs <;>
      exact ⟨_, r, rfl, by simp⟩
  have hlex : step (lex? (c :: r)) = step (number? (c :: r)) := by
    rw [step_lex?_of_plain r (by rcases hc with rfl | rfl <;> decide), step_word?,
      step_punctuation?]
    rcases hc with rfl | rfl <;> simp [isWordStart, punctuation]
  cases hstep : step (lex? (c :: r)) with
  | none =>
    obtain ⟨e, he⟩ := exists_tokensFrom_error hstep place
    rw [he] at h
    cases h
  | some found =>
    obtain ⟨token?, taken, rest⟩ := found
    rw [tokensFrom_eq_of_step hstep] at h
    obtain ⟨later, -, rfl⟩ := map_append_eq_ok h
    rw [hlex, step_number?] at hstep
    dsimp only at hstep
    split at hstep
    · cases hstep
    · obtain ⟨rfl, -⟩ := Prod.mk.inj (Option.some.inj hstep)
      intro y hy
      obtain rfl := Option.some.inj hy
      simp

theorem step_lex?_of_number? {s : List Char} {p : Parsed Document s}
    (h : Json.number? s = some p) {found : Option Token × List Char × List Char}
    (hstep : step (number? s) = some found) : step (lex? s) = some found := by
  obtain ⟨-, sign, r, rfl, hsign, hdigits, -⟩ := Json.exists_of_number? h
  have hplain : ∃ c t, sign ++ r = c :: t ∧ c ≠ '#' ∧ isSpace c = false ∧ c ≠ '\'' ∧ c ≠ '"' := by
    rcases hsign with ⟨rfl, -⟩ | rfl
    · obtain ⟨c, t, rfl⟩ := List.exists_cons_of_ne_nil (l := r) (by rintro rfl; exact hdigits rfl)
      have hc : isDigit c = true := by
        by_contra hc
        exact hdigits (List.takeWhile_cons_of_neg hc)
      exact ⟨c, t, rfl, (plain_of_isDigit hc).1⟩
    · exact ⟨'-', r, rfl, by decide⟩
  obtain ⟨c, t, hcons, hplain⟩ := hplain
  rw [hcons] at hstep ⊢
  rw [step_lex?_of_plain t hplain, hstep, Option.some_or]

/-- A keyword of JSON is one word of CSON with the same meaning. -/
theorem exists_keyword_token {word : List Char} {d : Document} (h : Json.Keyword word d)
    {rest : List Char} (hrest : Boundary rest) {place : Place} {ts : List Lexeme}
    (hts : tokensFrom place (word ++ rest) = .ok ts) :
    ∃ x place' later text, ts = x :: later ∧ x.token = .word text ∧
      (∀ v, keywordValue? text = some v → v = d) ∧ tokensFrom place' rest = .ok later := by
  obtain ⟨text, c, s, rfl, hword, hstart, hchars, hvalue⟩ : ∃ (text : String) (c : Char)
      (s : List Char), word = text.toList ∧ text.toList = c :: s ∧ isWordStart c = true ∧
        s.all isWordChar = true ∧ keywordValue? text = some d := by
    cases h with
    | yes => exact ⟨"true", _, _, rfl, rfl, by decide, by decide, rfl⟩
    | no => exact ⟨"false", _, _, rfl, rfl, by decide, by decide, rfl⟩
    | null => exact ⟨"null", _, _, rfl, rfl, by decide, by decide, rfl⟩
  rw [lexes_word hword hstart hchars place rest hrest] at hts
  obtain ⟨later, hlater, rfl⟩ := map_append_eq_ok hts
  refine ⟨_, _, later, text, rfl, rfl, fun v hv => ?_, hlater⟩
  exact Option.some.inj (hv.symm.trans hvalue)

/-- A value of JSON without parts starts with one token. If that token denotes anything as CSON, it
    denotes the same and nothing more belongs to it. -/
theorem exists_scalar_token {source t rest : List Char} {d : Document}
    (h : Json.Scalar t d rest) (ht : t <:+ source) (hends : Ends rest) {place : Place}
    {ts : List Lexeme} (hts : tokensFrom place t = .ok ts) :
    ∃ x later, ts = x :: later ∧ x.token.keyText?.isSome ∧
      (∀ y ∈ later.head?, y.token ≠ .colon) ∧
      ∀ v, Scalar x.token v → rest <:+ source ∧ (∃ place', tokensFrom place' rest = .ok later) ∧
        v.withoutNumbers.Like (Halves source) d.withoutNumbers := by
  cases h with
  | string hbody =>
    obtain ⟨x, place', later, text', rfl, hx, hhalves, hlater, hrest⟩ :=
      exists_string_token hbody ht hends.boundary.2 hts
    refine ⟨x, later, rfl, by rw [hx]; rfl, hends.ne_colon hlater, fun v hv => ?_⟩
    rw [hx] at hv
    obtain rfl := scalar_string_iff.1 hv
    rw [Document.withoutNumbers, Document.withoutNumbers]
    exact ⟨hrest, ⟨place', hlater⟩, .string hhalves⟩
  | @keyword word _ hkeyword _ =>
    obtain ⟨x, place', later, text, rfl, hx, hvalue, hlater⟩ :=
      exists_keyword_token hkeyword hends.boundary.1 hts
    refine ⟨x, later, rfl, by rw [hx]; rfl, hends.ne_colon hlater, fun v hv => ?_⟩
    rw [hx] at hv
    obtain rfl := hvalue v (scalar_word_iff.1 hv)
    exact ⟨(List.suffix_append _ _).trans ht, ⟨place', hlater⟩, .refl _⟩
  | @number _ p hnumber =>
    obtain ⟨text, left, hstep, hleft⟩ :=
      exists_step_number? hnumber fun c hc => (hends.boundary.1 c hc).2.1
    have hlex := step_lex?_of_number? hnumber hstep
    rw [tokensFrom_eq_of_step hlex] at hts
    obtain ⟨later, hlater, rfl⟩ := map_append_eq_ok hts
    refine ⟨_, later, rfl, rfl, ?_, fun v hv => ?_⟩
    · rcases hleft with rfl | ⟨-, hsign⟩
      · exact hends.ne_colon hlater
      · exact ne_colon_of_sign hsign hlater
    · have hvalue := scalar_number_iff.1 hv
      rw [String.toList_ofList] at hvalue
      rcases hleft with rfl | ⟨hnone, -⟩
      · have hsuffix := (List.suffix_append _ _).trans (append_of_step hlex ▸ ht)
        refine ⟨hsuffix, ⟨_, hlater⟩, ?_⟩
        rw [withoutNumbers_numberValue? hvalue, (Json.exists_of_number? hnumber).1]
        exact .refl _
      · rw [hnone] at hvalue
        cases hvalue

end RuleGraph.Cson
