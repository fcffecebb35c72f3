import RuleGraph.Proofs.Cson.Grammar
import RuleGraph.Proofs.Cson.Outcome

namespace RuleGraph.Cson

/-- The parser sees a key in some column exactly where the grammar lets an entry start. -/
theorem keyColumn?_eq_some_iff {column : Nat} {ts : List Lexeme} :
    keyColumn? ts = some column ↔ StartsEntry column ts := by
  constructor
  · intro h
    match ts, h with
    | x :: colon :: rest, h =>
      simp only [keyColumn?, Option.ite_none_right_eq_some, Option.some.injEq] at h
      obtain ⟨⟨hkey, hcolon⟩, rfl⟩ := h
      obtain ⟨name, hname⟩ := Option.isSome_iff_exists.1 hkey
      exact .intro hname hcolon
  · rintro ⟨hkey, hcolon⟩
    simp [keyColumn?, hkey, hcolon]

/-- The parser sees no key exactly where no entry can start. -/
theorem keyColumn?_eq_none_iff {ts : List Lexeme} :
    keyColumn? ts = none ↔ ∀ column, ¬StartsEntry column ts := by
  simp only [← keyColumn?_eq_some_iff, Option.eq_none_iff_forall_ne_some, ne_eq]

/-- The column of an entry is settled by the tokens. -/
theorem StartsEntry.unique {c d : Nat} {ts : List Lexeme} (h : StartsEntry c ts)
    (h' : StartsEntry d ts) : c = d := by
  rw [← keyColumn?_eq_some_iff] at h h'
  exact Option.some.inj (h.symm.trans h')

/-- The parser compares the column of the next token, as the grammar does. -/
theorem isDeeper_eq_true_iff {column : Nat} {ts : List Lexeme} :
    isDeeper column ts = true ↔ StartsDeeper column ts := by
  cases ts with
  | nil => simp [isDeeper, StartsDeeper]
  | cons x rest => simp [isDeeper, StartsDeeper]

/-- The parser reads a key exactly where a key and a colon stand. -/
theorem outcome_key_eq_ok_iff {size : Nat} {ts rest : List Lexeme} {name : String} :
    outcome (key size ts) = .ok (name, rest) ↔
      ∃ x colon, ts = x :: colon :: rest ∧ x.token.keyText? = some name ∧
        colon.token = .colon := by
  rw [key.eq_def]
  cases ts with
  | nil => simp
  | cons x later =>
    cases hname : x.token.keyText? with
    | none => grind [outcome_error]
    | some text =>
      cases later with
      | nil => simp [hname]
      | cons y later => grind [outcome_ok, outcome_error]

theorem scalar_string_iff {text : String} {v : Document} :
    Scalar (.string text) v ↔ v = .string text :=
  ⟨fun | .string _ => rfl, fun h => h ▸ .string text⟩

/-- The text of a number may have no value, and then it is no scalar. -/
theorem scalar_number_iff {text : String} {v : Document} :
    Scalar (.number text) v ↔ numberValue? text.toList = some v :=
  ⟨fun | .number h => h, .number⟩

theorem scalar_word_iff {word : String} {v : Document} :
    Scalar (.word word) v ↔ keywordValue? word = some v := by
  constructor
  · intro h
    cases h with
    | yes h | no h | null h =>
      simp only [List.mem_cons, List.not_mem_nil, or_false] at h
      rcases h with rfl | h
      · rfl
      · rcases h with rfl | rfl <;> rfl
  · intro h
    simp only [keywordValue?] at h
    split at h
    · exact Option.some.inj h ▸ .yes ‹_›
    · split at h
      · exact Option.some.inj h ▸ .no ‹_›
      · split at h
        · exact Option.some.inj h ▸ .null ‹_›
        · cases h

/-- A single token is read as a value exactly if it denotes one. -/
theorem outcome_scalar_eq_ok_iff {size : Nat} {x : Lexeme} {rest rest' : List Lexeme}
    {v : Document} :
    outcome (scalar size (x :: rest)) = .ok (v, rest') ↔ Scalar x.token v ∧ rest' = rest := by
  simp only [scalar]
  cases hx : x.token with
  | string text =>
    simp only [outcome_ok, Except.ok.injEq, Prod.mk.injEq, scalar_string_iff]
    grind
  | number text =>
    simp only [scalar_number_iff]
    cases numberValue? text.toList <;> grind [outcome_ok, outcome_error]
  | word word =>
    simp only [scalar_word_iff]
    cases keywordValue? word <;> grind [outcome_ok, outcome_error]
  | _ => grind [outcome_error, Scalar]

theorem isSeparator_of_isNewline {x : Lexeme} (h : isNewline x = true) : isSeparator x = true := by
  rw [isSeparator, Bool.or_eq_true]
  exact .inl h

/-- Line ends are skipped up to the first other token. -/
theorem exists_newlines_append (ts : List Lexeme) :
    ∃ breaks, Newlines breaks ∧ ts = breaks ++ ts.dropWhile isNewline := by
  refine ⟨ts.takeWhile isNewline, ?_, List.takeWhile_append_dropWhile.symm⟩
  intro x hx
  simpa [isNewline] using List.all_eq_true.1 List.all_takeWhile x hx

/-- Line ends and commas are skipped up to the first other token. -/
theorem exists_separators_append (ts : List Lexeme) :
    ∃ separators, Separators separators ∧ ts = separators ++ ts.dropWhile isSeparator := by
  refine ⟨ts.takeWhile isSeparator, ?_, List.takeWhile_append_dropWhile.symm⟩
  intro x hx
  simpa [isSeparator] using List.all_eq_true.1 List.all_takeWhile x hx

/-- Separators in front are skipped with all others that follow. -/
theorem dropWhile_isSeparator_append {separators : List Lexeme} (h : Separators separators)
    (ts : List Lexeme) : (separators ++ ts).dropWhile isSeparator = ts.dropWhile isSeparator :=
  List.dropWhile_append_of_pos fun x hx => by simpa [isSeparator] using h x hx

section Members

variable {α : Type} {size : Nat} {wanted : Wanted} {close : Token}
  {first : Lexeme → List Lexeme → Except Error (α × List Lexeme)}
  {others : List Lexeme → Except Error (List α × List Lexeme)}

/-- Behind line ends and commas the members go on as if there were none. -/
theorem members_append {separators : List Lexeme} (h : Separators separators) (ts : List Lexeme) :
    members size wanted close first others (separators ++ ts) =
      members size wanted close first others ts := by
  rw [members, members, dropWhile_isSeparator_append h]

/-- A token that is not skipped closes the members, or begins the first of them. -/
theorem members_cons {x : Lexeme} (h : isSeparator x = false) (rest : List Lexeme) :
    members size wanted close first others (x :: rest) =
      if x.token = close then .ok ([], rest)
      else (do
        let (a, rest) ← first x (x :: rest)
        let (later, rest) ← others rest
        pure (a :: later, rest)) := by
  rw [members, List.dropWhile_cons_of_neg (by simp [h])]

/-- A closing mark ends the members, with separators before it or without. -/
theorem members_close {separators : List Lexeme} (h : Separators separators) {x : Lexeme}
    (hx : x.token = close) (hclose : close = .closeBrace ∨ close = .closeBracket)
    (rest : List Lexeme) :
    members size wanted close first others (separators ++ x :: rest) = .ok ([], rest) := by
  have hkeep : isSeparator x = false := by
    rcases hclose with rfl | rfl <;> simp [isSeparator, hx]
  rw [members_append h, members_cons hkeep, if_pos hx]

/-- Members that were read are none in front of the closing token, or one and those behind it. -/
theorem exists_of_members {ts rest : List Lexeme} {found : List α}
    (h : members size wanted close first others ts = .ok (found, rest)) :
    ∃ separators x later, Separators separators ∧ ts = separators ++ x :: later ∧
      ((x.token = close ∧ found = [] ∧ rest = later) ∨
        ∃ a middle behind, first x (x :: later) = .ok (a, middle) ∧
          others middle = .ok (behind, rest) ∧ found = a :: behind) := by
  obtain ⟨separators, hseparators, hts⟩ := exists_separators_append ts
  rw [members] at h
  cases hlater : ts.dropWhile isSeparator with
  | nil => simp only [hlater, reduceCtorEq] at h
  | cons x later =>
    simp only [hlater] at h
    refine ⟨separators, x, later, hseparators, hlater ▸ hts, ?_⟩
    split at h
    · rename_i hclose
      simp only [Except.ok.injEq, Prod.mk.injEq] at h
      exact .inl ⟨hclose, h.1.symm, h.2.symm⟩
    · simp only [bind_eq_ok_iff, pure_eq_ok_iff] at h
      obtain ⟨a, middle, hfirst, behind, rest', hothers, rfl, rfl⟩ := h
      exact .inr ⟨a, middle, behind, hfirst, hothers, rfl⟩

end Members

/-- The tokens begin with one that can begin an item. -/
inductive StartsItem : List Lexeme → Prop where
  | key {x : Lexeme} {name : String} {rest : List Lexeme} (h : x.token.keyText? = some name) :
      StartsItem (x :: rest)
  | brace {x : Lexeme} {rest : List Lexeme} (h : x.token = .openBrace) : StartsItem (x :: rest)
  | bracket {x : Lexeme} {rest : List Lexeme} (h : x.token = .openBracket) : StartsItem (x :: rest)

/-- Where an entry starts, an item can start: an implied object. -/
theorem StartsEntry.startsItem {column : Nat} {ts : List Lexeme} (h : StartsEntry column ts) :
    StartsItem ts := by
  obtain ⟨hkey, -⟩ := h
  exact .key hkey

theorem StartsItem.append {ts : List Lexeme} (h : StartsItem ts) (more : List Lexeme) :
    StartsItem (ts ++ more) := by
  cases h with
  | key h => exact .key h
  | brace h => exact .brace h
  | bracket h => exact .bracket h

/-- An item begins with a token that nothing skips and that closes nothing. -/
theorem StartsItem.exists_cons {ts : List Lexeme} (h : StartsItem ts) :
    ∃ x rest, ts = x :: rest ∧ isNewline x = false ∧ isSeparator x = false ∧
      x.token ≠ .closeBrace ∧ x.token ≠ .closeBracket := by
  rcases h with h | h | h
  · rename_i x name rest
    refine ⟨x, rest, rfl, ?_⟩
    cases hx : x.token <;> simp_all [isNewline, isSeparator, Token.keyText?]
  all_goals
    rename_i x rest
    exact ⟨x, rest, rfl, by simp [h, isNewline, isSeparator]⟩

/-- Line ends are skipped up to the item behind them. -/
theorem StartsItem.dropWhile_isNewline {ts : List Lexeme} (h : StartsItem ts)
    {breaks : List Lexeme} (hbreaks : Newlines breaks) :
    (breaks ++ ts).dropWhile isNewline = ts := by
  obtain ⟨x, rest, rfl, hx, -⟩ := h.exists_cons
  rw [List.dropWhile_append_of_pos fun y hy => by simp [isNewline, hbreaks y hy]]
  exact List.dropWhile_cons_of_neg (by simp [hx])

/-- The parser goes on with an implied object exactly where the grammar lets it go on. -/
theorem continues_iff {column : Nat} {ts : List Lexeme} :
    Continues column ts ↔
      (ts.dropWhile isNewline).length < ts.length ∧
        keyColumn? (ts.dropWhile isNewline) = some column := by
  obtain ⟨breaks, hbreaks, hts⟩ := exists_newlines_append ts
  have hlength := congrArg List.length hts
  rw [List.length_append] at hlength
  constructor
  · rintro ⟨others, rest, hsome, hothers, rfl, hstart⟩
    rw [hstart.startsItem.dropWhile_isNewline hothers, keyColumn?_eq_some_iff]
    have hpos := List.length_pos_iff.2 hsome
    exact ⟨by simp only [List.length_append]; omega, hstart⟩
  · rintro ⟨hshorter, hcolumn⟩
    refine ⟨breaks, _, ?_, hbreaks, hts, keyColumn?_eq_some_iff.1 hcolumn⟩
    rintro rfl
    simp only [List.length_nil] at hlength
    omega

end RuleGraph.Cson
