import RuleGraph.Proofs.Cson.Lookahead

namespace RuleGraph.Cson

/-- Both runs find the same value and leave related tokens, or both fail with related errors. -/
inductive Found {α : Type} (left : List Lexeme → List Lexeme → Prop)
    (error : Error → Error → Prop) :
    Except Error (α × List Lexeme) → Except Error (α × List Lexeme) → Prop where
  | ok (a : α) {rest rest' : List Lexeme} (h : left rest rest') :
      Found left error (.ok (a, rest)) (.ok (a, rest'))
  | error {e e' : Error} (h : error e e') : Found left error (.error e) (.error e')

namespace Found

variable {α β : Type} {left left' : List Lexeme → List Lexeme → Prop}
  {error : Error → Error → Prop}

theorem map {x x' : Except Error (α × List Lexeme)} (h : Found left error x x') (f : α → β) :
    Found left error (x.map fun (a, rest) => (f a, rest))
      (x'.map fun (a, rest) => (f a, rest)) := by
  cases h with
  | ok a h => exact .ok (f a) h
  | error h => exact .error h

/-- What comes next runs alike wherever the first run found something. -/
theorem bind {x x' : Except Error (α × List Lexeme)}
    {f f' : α × List Lexeme → Except Error (β × List Lexeme)} (h : Found left error x x')
    (hnext : ∀ a rest rest', x = .ok (a, rest) → left rest rest' →
      Found left' error (f (a, rest)) (f' (a, rest'))) :
    Found left' error (x >>= f) (x' >>= f') := by
  cases h with
  | ok a h => exact hnext a _ _ rfl h
  | error h => exact .error h

end Found

/-- Line ends come first, so that skipping them crosses a line. -/
abbrev CrossesLine (ts : List Lexeme) : Prop :=
  (ts.dropWhile isNewline).length < ts.length

/-- A line is crossed exactly where a line end comes first. -/
theorem crossesLine_cons {x : Lexeme} {ts : List Lexeme} :
    CrossesLine (x :: ts) ↔ x.token = .newline := by
  by_cases h : x.token = .newline
  · have hle := (List.dropWhile_sublist isNewline (l := ts)).length_le
    rw [CrossesLine, List.dropWhile_cons_of_pos (by simpa [isNewline] using h), List.length_cons]
    exact iff_of_true (by omega) h
  · rw [CrossesLine, List.dropWhile_cons_of_neg (by simpa [isNewline] using h)]
    exact iff_of_false (Nat.lt_irrefl _) h

/-- How two lists of tokens can look alike to the parser. Columns are moved by `column`; `before`
relates the lists where something is to be read, and `behind` where something was read. -/
structure Simulation (size size' : Nat) where
  column : Nat → Nat
  before : List Lexeme → List Lexeme → Prop
  behind : List Lexeme → List Lexeme → Prop
  error : Error → Error → Prop
  column_injective : Function.Injective column
  /-- The first tokens are the same up to their places, and both lists go on alike. -/
  cons {x : Lexeme} {rest ts' : List Lexeme} : before (x :: rest) ts' →
    ∃ y rest', ts' = y :: rest' ∧ y.token = x.token ∧ y.place.column = column x.place.column ∧
      (x.token ≠ .newline → behind rest rest')
  nil {ts' : List Lexeme} : before [] ts' → ts' = []
  keyColumn {ts ts' : List Lexeme} : before ts ts' → keyColumn? ts' = (keyColumn? ts).map column
  key {ts ts' : List Lexeme} : before ts ts' →
    Found before error (outcome (key size ts)) (outcome (key size' ts'))
  wanted {ts ts' : List Lexeme} (wanted : Wanted) : before ts ts' →
    error (wantedAt wanted size ts) (wantedAt wanted size' ts')
  deeper {ts ts' : List Lexeme} (c : Nat) : before ts ts' →
    isDeeper (column c) ts' = isDeeper c ts
  newlines {ts ts' : List Lexeme} : before ts ts' →
    (CrossesLine ts ↔ CrossesLine ts') ∧
      before (ts.dropWhile isNewline) (ts'.dropWhile isNewline)
  newlines_behind {ts ts' : List Lexeme} : behind ts ts' →
    (CrossesLine ts ↔ CrossesLine ts') ∧
      (CrossesLine ts → before (ts.dropWhile isNewline) (ts'.dropWhile isNewline))
  separators {ts ts' : List Lexeme} : behind ts ts' →
    before (ts.dropWhile isSeparator) (ts'.dropWhile isSeparator)
  /-- Nothing but line ends is left in both lists, or something else is left in both. -/
  last {ts ts' : List Lexeme} : behind ts ts' →
    (ts.dropWhile isNewline = [] ∧ ts'.dropWhile isNewline = []) ∨
      ∃ x later y later', ts.dropWhile isNewline = x :: later ∧
        ts'.dropWhile isNewline = y :: later' ∧
        error ⟨.afterDocument x.token, x.place.offset⟩ ⟨.afterDocument y.token, y.place.offset⟩

namespace Simulation

variable {size size' : Nat} (sim : Simulation size size')

/-- A reader runs alike on both lists. -/
abbrev Agrees {α : Type} (x x' : Except Error (α × List Lexeme)) : Prop :=
  Found sim.behind sim.error x x'

/-- The same token is the same scalar, or is refused for like reasons. -/
theorem scalar {x y : Lexeme} {rest rest' : List Lexeme}
    (h : sim.before (x :: rest) (y :: rest')) (htoken : y.token = x.token)
    (hbehind : x.token ≠ .newline → sim.behind rest rest') :
    sim.Agrees (outcome (scalar size (x :: rest))) (outcome (scalar size' (y :: rest'))) := by
  have hrefused (wanted : Wanted) := sim.wanted wanted h
  simp only [Cson.scalar, htoken]
  cases hx : x.token with
  | string text => exact .ok _ (hbehind (by simp [hx]))
  | number text =>
    dsimp only
    cases numberValue? text.toList with
    | some v => exact .ok v (hbehind (by simp [hx]))
    | none => exact .error (hrefused .number)
  | word word =>
    dsimp only
    cases keywordValue? word with
    | some v => exact .ok v (hbehind (by simp [hx]))
    | none => exact .error (hrefused .value)
  | _ => exact .error (hrefused .value)

/-- An entry runs alike if the items in it do. -/
theorem entry (column : Nat) {ts ts' : List Lexeme} (h : sim.before ts ts')
    (hitem : ∀ later later', later.length < ts.length → sim.before later later' →
      sim.Agrees (outcome (item size later)) (outcome (item size' later'))) :
    sim.Agrees (entry size column ts) (entry size' (sim.column column) ts') := by
  refine (sim.key h).bind fun name middle middle' hkey hmiddle => ?_
  have hshorter := length_lt_of_outcome hkey
  obtain ⟨hcross, hlater⟩ := sim.newlines hmiddle
  have hvalue : sim.Agrees (outcome (entryValue size column middle))
      (outcome (entryValue size' (sim.column column) middle')) := by
    rw [outcome_entryValue, outcome_entryValue, sim.deeper column hlater]
    by_cases hshallow : CrossesLine middle ∧ isDeeper column (middle.dropWhile isNewline) = false
    · rw [if_pos hshallow, if_pos ⟨hcross.1 hshallow.1, hshallow.2⟩]
      exact .error (sim.wanted .indentedValue hlater)
    · rw [if_neg hshallow, if_neg fun hboth => hshallow ⟨hcross.2 hboth.1, hboth.2⟩]
      have hle := (List.dropWhile_sublist isNewline (l := middle)).length_le
      exact hitem _ _ (by omega) hlater
  exact hvalue.bind fun v rest rest' _ hrest => .ok (name, v) hrest

/-- Members run alike if the first of them does, and those behind it. -/
theorem members {α : Type} {wanted : Wanted} {close : Token} (hclose : close ≠ .newline)
    {first first' : Lexeme → List Lexeme → Except Error (α × List Lexeme)}
    {others others' : List Lexeme → Except Error (List α × List Lexeme)} {ts ts' : List Lexeme}
    (h : sim.behind ts ts')
    (hfirst : ∀ {x y : Lexeme} {rest rest' : List Lexeme}, (x :: rest).length ≤ ts.length →
      sim.before (x :: rest) (y :: rest') → y.place.column = sim.column x.place.column →
      sim.Agrees (first x (x :: rest)) (first' y (y :: rest')))
    (hothers : ∀ {x : Lexeme} {rest : List Lexeme} {a : α} {later later' : List Lexeme},
      (x :: rest).length ≤ ts.length → first x (x :: rest) = .ok (a, later) →
      sim.behind later later' → sim.Agrees (others later) (others' later')) :
    sim.Agrees (members size wanted close first others ts)
      (members size' wanted close first' others' ts') := by
  have hbefore := sim.separators h
  rw [Cson.members, Cson.members]
  cases hlater : ts.dropWhile isSeparator with
  | nil =>
    rw [hlater] at hbefore
    have hwanted := sim.wanted wanted hbefore
    rw [sim.nil hbefore] at hwanted ⊢
    exact .error hwanted
  | cons x rest =>
    have hle : (x :: rest).length ≤ ts.length := hlater ▸ (List.dropWhile_sublist _).length_le
    rw [hlater] at hbefore
    obtain ⟨y, rest', hlater', htoken, hcolumn, hbehind⟩ := sim.cons hbefore
    rw [hlater'] at hbefore ⊢
    dsimp only
    rw [htoken]
    by_cases hx : x.token = close
    · rw [if_pos hx, if_pos hx]
      exact .ok [] (hbehind (hx ▸ hclose))
    · rw [if_neg hx, if_neg hx]
      refine (hfirst hle hbefore hcolumn).bind fun a middle middle' hread hmiddle => ?_
      exact (hothers hle hread hmiddle).bind fun later last last' _ hlast => .ok (a :: later) hlast

mutual

/-- Both runs find like items. The readers call each other, each with fewer tokens or for a smaller
    part of the grammar, and one case for each of them suffices. -/
theorem item {ts ts' : List Lexeme} (h : sim.before ts ts') :
    sim.Agrees (outcome (item size ts)) (outcome (item size' ts')) := by
  rw [outcome_item, outcome_item, sim.keyColumn h]
  cases hkey : keyColumn? ts with
  | none => exact value h
  | some column => exact (impliedFields h).map Document.ofFields
termination_by (ts.length, 4)

/-- An implied object goes on in both runs or ends in both, since its column moves with its keys. -/
theorem impliedFields {column : Nat} {ts ts' : List Lexeme} (h : sim.before ts ts') :
    sim.Agrees (outcome (impliedFields size column ts))
      (outcome (impliedFields size' (sim.column column) ts')) := by
  rw [outcome_impliedFields, outcome_impliedFields]
  have hentry := sim.entry column h fun later later' hshorter hlater => item hlater
  refine hentry.bind fun e rest rest' hread hrest => ?_
  have hshorter := length_lt_of_entry hread
  obtain ⟨hcross, hbefore⟩ := sim.newlines_behind hrest
  by_cases hmore : CrossesLine rest ∧ keyColumn? (rest.dropWhile isNewline) = some column
  · have hlater := hbefore hmore.1
    have hmore' : CrossesLine rest' ∧
        keyColumn? (rest'.dropWhile isNewline) = some (sim.column column) :=
      ⟨hcross.1 hmore.1, by rw [sim.keyColumn hlater, hmore.2]; rfl⟩
    have hle := (List.dropWhile_sublist isNewline (l := rest)).length_le
    simp only [hmore, hmore', and_self, if_true]
    exact (impliedFields hlater).bind fun others last last' _ hlast => .ok (e :: others) hlast
  · have hmore' : ¬(CrossesLine rest' ∧
        keyColumn? (rest'.dropWhile isNewline) = some (sim.column column)) := by
      rintro ⟨hline, hcolumn⟩
      have hlater := hbefore (hcross.2 hline)
      rw [sim.keyColumn hlater, Option.map_eq_some_iff] at hcolumn
      obtain ⟨c, hc, hsame⟩ := hcolumn
      exact hmore ⟨hcross.2 hline, sim.column_injective hsame ▸ hc⟩
    simp only [hmore, hmore', if_false]
    exact .ok [e] hrest
termination_by (ts.length, 3)

theorem value {ts ts' : List Lexeme} (h : sim.before ts ts') :
    sim.Agrees (outcome (value size ts)) (outcome (value size' ts')) := by
  cases ts with
  | nil =>
    have hwanted := sim.wanted .value h
    obtain rfl := sim.nil h
    rw [outcome_value_nil, outcome_value_nil]
    exact .error hwanted
  | cons x rest =>
    obtain ⟨y, rest', rfl, htoken, -, hbehind⟩ := sim.cons h
    rw [outcome_value, outcome_value, htoken]
    by_cases hbrace : x.token = .openBrace
    · rw [if_pos hbrace, if_pos hbrace]
      exact (bracedFields (hbehind (by simp [hbrace]))).map Document.ofFields
    · rw [if_neg hbrace, if_neg hbrace]
      by_cases hbracket : x.token = .openBracket
      · rw [if_pos hbracket, if_pos hbracket]
        exact (arrayItems (hbehind (by simp [hbracket]))).map Document.array
      · rw [if_neg hbracket, if_neg hbracket]
        exact sim.scalar h htoken hbehind
termination_by (ts.length, 3)

theorem bracedFields {ts ts' : List Lexeme} (h : sim.behind ts ts') :
    sim.Agrees (outcome (bracedFields size ts)) (outcome (bracedFields size' ts')) := by
  rw [outcome_bracedFields, outcome_bracedFields]
  refine sim.members (by decide) h ?_ fun hle hread hmiddle => ?_
  · intro x y rest rest' hle hbefore hcolumn
    rw [hcolumn]
    exact sim.entry x.place.column hbefore fun later later' hshorter hitem => item hitem
  · have hshorter := length_lt_of_entry hread
    exact bracedFields hmiddle
termination_by (ts.length, 2)

theorem arrayItems {ts ts' : List Lexeme} (h : sim.behind ts ts') :
    sim.Agrees (outcome (arrayItems size ts)) (outcome (arrayItems size' ts')) := by
  rw [outcome_arrayItems, outcome_arrayItems]
  refine sim.members (by decide) h (fun hle hbefore _ => item hbefore) fun hle hread hmiddle => ?_
  have hshorter := length_lt_of_outcome hread
  exact arrayItems hmiddle
termination_by (ts.length, 5)
decreasing_by
  · exact Prod.Lex.right' _ hle (by decide)
  · exact Prod.Lex.left _ _ (Nat.lt_of_lt_of_le hshorter hle)

end

/-- Whole documents are the same, or they are refused for related reasons. -/
theorem documentOfTokens {ts ts' : List Lexeme} (h : sim.before ts ts') :
    (∃ v, documentOfTokens size ts = .ok v ∧ documentOfTokens size' ts' = .ok v) ∨
      ∃ e e', documentOfTokens size ts = .error e ∧ documentOfTokens size' ts' = .error e' ∧
        sim.error e e' := by
  obtain ⟨-, hbefore⟩ := sim.newlines h
  have hitem := sim.item hbefore
  rw [documentOfTokens_eq, documentOfTokens_eq]
  generalize outcome (Cson.item size (ts.dropWhile isNewline)) = x at hitem
  generalize outcome (Cson.item size' (ts'.dropWhile isNewline)) = x' at hitem
  cases hitem with
  | error he => exact .inr ⟨_, _, rfl, rfl, he⟩
  | ok v hrest =>
    obtain ⟨hnil, hnil'⟩ | ⟨y, later, y', later', hcons, hcons', he⟩ := sim.last hrest
    · simp only [bind, Except.bind, hnil, hnil']
      exact .inl ⟨v, rfl, rfl⟩
    · simp only [bind, Except.bind, hcons, hcons']
      exact .inr ⟨_, _, rfl, rfl, he⟩

end Simulation

end RuleGraph.Cson
