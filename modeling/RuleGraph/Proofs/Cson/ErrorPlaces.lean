import Mathlib
import RuleGraph.Proofs.Cson.Horizon

namespace RuleGraph.Cson

variable {size : Nat}

/-- Whether a key stands here is decided by two tokens, the second being its colon. -/
theorem settled_key (size : Nat) (ts : List Lexeme) :
    Settled size 2 (fun ts => outcome (key size ts)) ts := by
  cases ts with
  | nil => exact .refused_end .key rfl
  | cons x ts =>
    cases hname : x.token.keyText? with
    | none =>
      refine .refused .key (fun rest => ?_) ts
      simp only [key, hname, outcome_error]
    | some name =>
      cases ts with
      | nil =>
        have hcolon : Settled size 2 (fun ts => outcome (key size (x :: ts))) [] :=
          .refused_end .colon (by simp only [key, hname, outcome_error])
        exact hcolon.cons fun _ => rfl
      | cons y ts =>
        have hcolon : Settled size 2 (fun ts => outcome (key size (x :: ts))) (y :: ts) := by
          by_cases hy : y.token = .colon
          · exact .first name (fun rest => by simp only [key, hname, if_pos hy, outcome_ok]) ts
          · exact .refused .colon (fun rest => by simp only [key, hname, if_neg hy, outcome_error]) ts
        exact hcolon.cons fun _ => rfl

theorem settled_scalar (size : Nat) (x : Lexeme) (ts : List Lexeme) :
    Settled size 2 (fun ts => outcome (scalar size ts)) (x :: ts) := by
  cases hx : x.token with
  | string text => exact .first (.string text) (fun rest => by simp only [scalar, hx, outcome_ok]) ts
  | number text =>
    cases hvalue : numberValue? text.toList with
    | some v => exact .first v (fun rest => by simp only [scalar, hx, hvalue, outcome_ok]) ts
    | none => exact .refused .number (fun rest => by simp only [scalar, hx, hvalue, outcome_error]) ts
  | word word =>
    cases hvalue : keywordValue? word with
    | some v => exact .first v (fun rest => by simp only [scalar, hx, hvalue, outcome_ok]) ts
    | none => exact .refused .value (fun rest => by simp only [scalar, hx, hvalue, outcome_error]) ts
  | _ => exact .refused .value (fun rest => by simp only [scalar, hx, outcome_error]) ts

/-- Behind its line ends a value is an item, which may be settled before the next token is known. -/
theorem settled_entryValue {column : Nat} {ts : List Lexeme}
    (hitem : Settled size 2 (fun ts => outcome (item size ts)) (ts.dropWhile isNewline)) :
    Settled size (horizon ts) (fun ts => outcome (entryValue size column ts)) ts := by
  by_cases hshallow : CrossesLine ts ∧ isDeeper column (ts.dropWhile isNewline) = false
  · have hwanted : Settled size 2
        (fun ts => (.error (wantedAt .indentedValue size ts) : Except Error (Document × List Lexeme)))
        (ts.dropWhile isNewline) := .wanted .indentedValue size _
    refine (hwanted.skip fun _ _ h => by cases h).congr fun ts' hts => ?_
    obtain ⟨hcross, hlater⟩ := hts.newlines
    rw [outcome_entryValue, if_pos ⟨hcross.2 hshallow.1, (hlater.isDeeper column).trans hshallow.2⟩]
  · refine (hitem.skip fun _ _ h => length_lt_of_outcome h).congr fun ts' hts => ?_
    obtain ⟨hcross, hlater⟩ := hts.newlines
    rw [outcome_entryValue, if_neg]
    rintro ⟨hline, hdeeper⟩
    exact hshallow ⟨hcross.1 hline, (hlater.isDeeper column).symm.trans hdeeper⟩

/-- An entry is settled if what may stand as its value is. -/
theorem settled_entry {column : Nat} {ts : List Lexeme}
    (hitem : ∀ later, later.length < ts.length →
      Settled size 2 (fun ts => outcome (item size ts)) later) :
    Settled size 2 (entry size column) ts := by
  refine (settled_key size ts).bind fun name rest hkey => ?_
  have hshorter := length_lt_of_outcome hkey
  have hle := (List.dropWhile_sublist isNewline (l := rest)).length_le
  refine (settled_entryValue (hitem _ (by omega))).bind fun v last _ => ?_
  exact .pure (name, v) size last

-- Each reader goes on with fewer tokens, or hands the same ones to a reader with a smaller number.
mutual

/-- All readers are settled within their horizon, one case for each of them: an item by the token
    that starts it and the one behind. -/
theorem settled_item (size : Nat) (ts : List Lexeme) :
    Settled size 2 (fun ts => outcome (item size ts)) ts := by
  cases hkey : keyColumn? ts with
  | none =>
    refine (settled_value size ts).congr fun ts' hts => ?_
    rw [outcome_item, hts.keyColumn?, hkey]
  | some column =>
    refine ((settled_impliedFields size column ts).map Document.ofFields).congr fun ts' hts => ?_
    rw [outcome_item, hts.keyColumn?, hkey]
termination_by (ts.length, 4)

theorem settled_impliedFields (size column : Nat) (ts : List Lexeme) :
    Settled size 2 (fun ts => outcome (impliedFields size column ts)) ts := by
  have hentry : Settled size 2 (entry size column) ts :=
    settled_entry fun later hshorter => settled_item size later
  refine Settled.congr ?_ fun ts' _ => outcome_impliedFields size column ts'
  refine hentry.bind fun e rest hread => ?_
  have hshorter := length_lt_of_entry hread
  have hle := (List.dropWhile_sublist isNewline (l := rest)).length_le
  by_cases hmore : CrossesLine rest ∧ keyColumn? (rest.dropWhile isNewline) = some column
  · have hothers := (settled_impliedFields size column (rest.dropWhile isNewline)).skip
      fun _ _ h => length_lt_of_outcome h
    have hall := hothers.bind (f := fun (others, last) => pure (e :: others, last))
      fun others last _ => .pure (e :: others) size last
    refine hall.congr fun rest' hrest => ?_
    obtain ⟨hcross, hlater⟩ := hrest.newlines
    dsimp only
    rw [if_pos ⟨hcross.2 hmore.1, hlater.keyColumn?.trans hmore.2⟩]
  · refine (Settled.pure [e] size rest).congr fun rest' hrest => ?_
    obtain ⟨hcross, hlater⟩ := hrest.newlines
    dsimp only
    rw [if_neg]
    rintro ⟨hline, hkey⟩
    exact hmore ⟨hcross.1 hline, hlater.keyColumn?.symm.trans hkey⟩
termination_by (ts.length, 3)

theorem settled_value (size : Nat) (ts : List Lexeme) :
    Settled size 2 (fun ts => outcome (value size ts)) ts := by
  cases ts with
  | nil => exact .refused_end .value (outcome_value_nil size)
  | cons x ts =>
    by_cases hbrace : x.token = .openBrace
    · refine (((settled_bracedFields size ts).mono (two_le_horizon ts)).map Document.ofFields).cons
        fun rest => ?_
      rw [outcome_value, if_pos hbrace]
    · by_cases hbracket : x.token = .openBracket
      · refine (((settled_arrayItems size ts).mono (two_le_horizon ts)).map Document.array).cons
          fun rest => ?_
        rw [outcome_value, if_neg hbrace, if_pos hbracket]
      · refine (settled_scalar size x ts).congr fun ts' hts => ?_
        obtain ⟨rest', rfl, -⟩ := hts.exists_cons
        rw [outcome_value, if_neg hbrace, if_neg hbracket]
termination_by (ts.length, 3)

theorem settled_bracedFields (size : Nat) (ts : List Lexeme) :
    Settled size (horizon ts) (fun ts => outcome (bracedFields size ts)) ts := by
  refine .members (outcome_bracedFields size) length_lt_of_outcome (fun x rest hle => ?_)
    fun hle hread => ?_
  · exact settled_entry fun later hshorter => settled_item size later
  · have hshorter := length_lt_of_entry hread
    exact settled_bracedFields size _
termination_by (ts.length, 2)

theorem settled_arrayItems (size : Nat) (ts : List Lexeme) :
    Settled size (horizon ts) (fun ts => outcome (arrayItems size ts)) ts := by
  refine .members (outcome_arrayItems size) length_lt_of_outcome
    (fun x rest hle => settled_item size (x :: rest)) fun hle hread => ?_
  have hshorter := length_lt_of_outcome hread
  exact settled_arrayItems size _
termination_by (ts.length, 5)
decreasing_by
  · exact Prod.Lex.right' _ hle (by decide)
  · exact Prod.Lex.left _ _ (Nat.lt_of_lt_of_le hshorter hle)

end

/-- Behind a document there are line ends only, or the token behind these is refused. -/
theorem settled_ending (size : Nat) (v : Document) (rest : List Lexeme) :
    Settled size (horizon rest)
      (fun rest =>
        match rest.dropWhile isNewline with
        | [] => .ok (v, [])
        | x :: _ => .error ⟨.afterDocument x.token, x.place.offset⟩) rest := by
  cases hlater : rest.dropWhile isNewline with
  | nil =>
    rw [← List.append_nil rest]
    refine .ok v ?_ fun rest' hrest => ?_
    · have hle := (List.takeWhile_prefix isNewline (l := rest)).length_le
      rw [List.append_nil]
      exact Nat.add_le_add_right hle 2
    · rw [SameFront.eq_nil (n := 1) hrest, List.append_nil, hlater]
  | cons x later =>
    have hrefused : Settled size 2
        (fun ts =>
          (match ts with
          | [] => .ok (v, [])
          | x :: _ => .error ⟨.afterDocument x.token, x.place.offset⟩ :
            Except Error (Document × List Lexeme))) (rest.dropWhile isNewline) := by
      rw [hlater]
      exact .failed rfl (fun _ => rfl) later
    refine hrefused.skip fun a last h => ?_
    rw [hlater] at h
    cases h

/-- An error is reported at the first place that nothing behind can repair: the tokens up to one
    behind the place decide that there is an error, and which one. -/
theorem settled_documentOfTokens (size : Nat) (ts : List Lexeme) :
    Settled size 2 (fun ts => (documentOfTokens size ts).map fun v => (v, ([] : List Lexeme))) ts := by
  have hitem := (settled_item size (ts.dropWhile isNewline)).skip fun _ _ h => length_lt_of_outcome h
  have hall := hitem.bind (f := fun found =>
    match found.2.dropWhile isNewline with
    | [] => .ok (found.1, [])
    | x :: _ => .error ⟨.afterDocument x.token, x.place.offset⟩)
      fun v rest _ => settled_ending size v rest
  refine (hall.mono (Nat.le_add_left 2 _)).congr fun ts' _ => ?_
  rw [documentOfTokens_eq]
  rcases outcome (item size (ts'.dropWhile isNewline)) with e | ⟨v, rest⟩
  · rfl
  · simp only [bind, Except.bind]
    cases rest.dropWhile isNewline <;> rfl

/-- Offsets that increase up to the end of the source tell the places apart. -/
theorem ReportedAt.unique {ts : List Lexeme} {e : Error} {p q : Nat}
    (hincreasing : ts.Pairwise fun x y => x.place.offset < y.place.offset)
    (hbelow : ∀ x ∈ ts, x.place.offset < size) (hp : ReportedAt size ts e p)
    (hq : ReportedAt size ts e q) : p = q := by
  cases hp with
  | ending hend =>
    cases hq with
    | ending => rfl
    | token hy hoffset =>
      have hlt := hbelow _ (List.mem_of_getElem? hy)
      omega
  | @token p x hx hoffset =>
    cases hq with
    | ending hend =>
      have hlt := hbelow _ (List.mem_of_getElem? hx)
      omega
    | @token q y hy hsame =>
      obtain ⟨hp, rfl⟩ := List.getElem?_eq_some_iff.1 hx
      obtain ⟨hq, rfl⟩ := List.getElem?_eq_some_iff.1 hy
      rw [List.pairwise_iff_getElem] at hincreasing
      rcases Nat.lt_trichotomy p q with hless | heq | hgreater
      · have hlt := hincreasing p q hp hq hless
        omega
      · exact heq
      · have hlt := hincreasing q p hq hp hgreater
        omega

/-- An error stands at one place of the source, and the tokens up to one behind that place give the same
error whatever follows them. -/
theorem documentOfTokens_error_settled {size : Nat} {ts : List Lexeme} {e : Error}
    (hincreasing : ts.Pairwise fun x y => x.place.offset < y.place.offset)
    (hbelow : ∀ x ∈ ts, x.place.offset < size) (h : documentOfTokens size ts = .error e) :
    ∃ p, (∀ q, ReportedAt size ts e q ↔ q = p) ∧
      ∀ ts', (∀ i ≤ p + 1, ts'[i]? = ts[i]?) → documentOfTokens size ts' = .error e := by
  have herror (ts' : List Lexeme) (e' : Error) :
      ((documentOfTokens size ts').map fun v => (v, ([] : List Lexeme))) = .error e' ↔
        documentOfTokens size ts' = .error e' := by
    cases documentOfTokens size ts' <;> simp [Except.map]
  cases settled_documentOfTokens size ts with
  | @ok a taken rest hleast hread =>
    have hok := hread rest (.refl _ rest)
    rw [h] at hok
    cases hok
  | @error e' p _ hat hleast hread =>
    obtain rfl : e = e' := Except.error.inj (h.symm.trans ((herror ts e').1 (hread ts (.refl _ ts))))
    refine ⟨p, fun q => ⟨fun hq => hq.unique hincreasing hbelow hat, fun hq => hq ▸ hat⟩, ?_⟩
    intro ts' hsame
    have hfront : SameFront (p + 2) ts ts' := .of_getElem? fun i hi => hsame i (by omega)
    exact (herror ts' e).1 (hread ts' hfront)

/-- Tokens of an entry with a text for its value, and of two words on the next line. -/
def strayWords : List Lexeme :=
  [⟨.word "a", ⟨0, 0⟩⟩, ⟨.colon, ⟨1, 1⟩⟩, ⟨.string "x", ⟨3, 3⟩⟩, ⟨.newline, ⟨6, 6⟩⟩,
    ⟨.word "b", ⟨7, 0⟩⟩, ⟨.word "c", ⟨9, 2⟩⟩]

/-- The second word shows that the first one is no key, and then nothing helps. -/
theorem documentOfTokens_error_settled_strayWords :
    documentOfTokens 10 strayWords = .error ⟨.afterDocument (.word "b"), 7⟩ ∧
      ∀ more, documentOfTokens 10 (strayWords ++ more) = .error ⟨.afterDocument (.word "b"), 7⟩ := by
  have hincreasing : strayWords.Pairwise fun x y => x.place.offset < y.place.offset := by decide
  have hbelow : ∀ x ∈ strayWords, x.place.offset < 10 := by decide
  have hread : documentOfTokens 10 strayWords = .error ⟨.afterDocument (.word "b"), 7⟩ := by cbv
  obtain ⟨p, hplace, hsettled⟩ := documentOfTokens_error_settled hincreasing hbelow hread
  obtain rfl : 4 = p := (hplace 4).1 (.token rfl rfl)
  refine ⟨hread, fun more => hsettled _ fun i hi => ?_⟩
  exact List.getElem?_append_left (Nat.lt_of_le_of_lt hi (by decide))

end RuleGraph.Cson
