import Mathlib.Order.Monotone.Basic
import RuleGraph.Proofs.Cson.Grammar
import RuleGraph.Proofs.Cson.Simulation

namespace RuleGraph.Cson

variable {f : Nat → Nat} {near : Nat → Nat → Prop}

/-- The same token with its column moved by `f`, and with an offset that may be another one as far as
`near` allows. -/
structure Lexeme.Moved (f : Nat → Nat) (near : Nat → Nat → Prop) (x y : Lexeme) : Prop where
  token : y.token = x.token
  column : y.place.column = f x.place.column
  offset : near x.place.offset y.place.offset

structure Error.Moved (near : Nat → Nat → Prop) (e e' : Error) : Prop where
  cause : e'.cause = e.cause
  offset : near e.offset e'.offset

/-- The same tokens moved, with any number of line ends added behind those that are there. -/
inductive Relaid (f : Nat → Nat) (near : Nat → Nat → Prop) : List Lexeme → List Lexeme → Prop where
  | nil : Relaid f near [] []
  | cons {x y : Lexeme} {ts ts' : List Lexeme} (hx : x.Moved f near y) (h : Relaid f near ts ts') :
      Relaid f near (x :: ts) (y :: ts')
  | newlines {x y : Lexeme} {more ts ts' : List Lexeme} (hx : x.Moved f near y)
      (hline : x.token = .newline) (hmore : Newlines more) (h : Relaid f near ts ts') :
      Relaid f near (x :: ts) (y :: (more ++ ts'))

namespace Relaid

/-- The first token is moved and nothing is put in front of it; only a line end may get more behind
    it. -/
theorem cons_left {x : Lexeme} {ts l : List Lexeme} (h : Relaid f near (x :: ts) l) :
    ∃ y ts', l = y :: ts' ∧ x.Moved f near y ∧ (x.token ≠ .newline → Relaid f near ts ts') := by
  cases h with
  | cons hx h => exact ⟨_, _, rfl, hx, fun _ => h⟩
  | newlines hx hline hmore h => exact ⟨_, _, rfl, hx, fun hne => absurd hline hne⟩

theorem eq_nil {l : List Lexeme} (h : Relaid f near [] l) : l = [] := by
  cases h
  rfl

/-- Tokens that are skipped with the line ends are skipped with the added ones as well. -/
theorem dropWhile {p : Lexeme → Bool} (htoken : ∀ x y : Lexeme, y.token = x.token → p y = p x)
    (hline : ∀ x : Lexeme, x.token = .newline → p x = true) {ts ts' : List Lexeme}
    (h : Relaid f near ts ts') : Relaid f near (ts.dropWhile p) (ts'.dropWhile p) := by
  induction h with
  | nil => exact .nil
  | @cons x y ts ts' hx h ih =>
    have hsame := htoken x y hx.token
    cases hskip : p x with
    | true =>
      rw [List.dropWhile_cons_of_pos hskip, List.dropWhile_cons_of_pos (hsame.trans hskip)]
      exact ih
    | false =>
      rw [List.dropWhile_cons_of_neg (by simp [hskip]),
        List.dropWhile_cons_of_neg (by simp [hsame, hskip])]
      exact .cons hx h
  | @newlines x y more ts ts' hx hnewline hmore h ih =>
    have hmoved : y.token = .newline := hx.token.trans hnewline
    rw [List.dropWhile_cons_of_pos (hline x hnewline), List.dropWhile_cons_of_pos (hline y hmoved),
      List.dropWhile_append_of_pos fun z hz => hline z (hmore z hz)]
    exact ih

/-- A run of line ends may be longer, and all of it is skipped. -/
theorem dropWhile_isNewline {ts ts' : List Lexeme} (h : Relaid f near ts ts') :
    Relaid f near (ts.dropWhile isNewline) (ts'.dropWhile isNewline) :=
  h.dropWhile (fun _ _ htoken => by simp only [isNewline, htoken]) fun _ hx => by simp [isNewline, hx]

theorem dropWhile_isSeparator {ts ts' : List Lexeme} (h : Relaid f near ts ts') :
    Relaid f near (ts.dropWhile isSeparator) (ts'.dropWhile isSeparator) :=
  h.dropWhile (fun _ _ htoken => by simp only [isSeparator, htoken]) fun _ hx => by
    simp [isSeparator, hx]

theorem crossesLine_iff {ts ts' : List Lexeme} (h : Relaid f near ts ts') :
    CrossesLine ts ↔ CrossesLine ts' := by
  cases ts with
  | nil =>
    rw [h.eq_nil]
  | cons x ts =>
    obtain ⟨y, ts', rfl, hx, -⟩ := h.cons_left
    rw [crossesLine_cons, crossesLine_cons, hx.token]

/-- A key is seen in the moved column. -/
theorem keyColumn? {ts ts' : List Lexeme} (h : Relaid f near ts ts') :
    keyColumn? ts' = (Cson.keyColumn? ts).map f := by
  cases ts with
  | nil =>
    rw [h.eq_nil]
    rfl
  | cons x ts =>
    obtain ⟨x', ts', rfl, hx, hrest⟩ := h.cons_left
    by_cases hline : x.token = .newline
    · have hnone : x.token.keyText? = none := by rw [hline]; rfl
      cases ts <;> cases ts' <;> simp [Cson.keyColumn?, hx.token, hnone]
    · have hlater := hrest hline
      cases ts with
      | nil =>
        rw [hlater.eq_nil]
        rfl
      | cons y ts =>
        obtain ⟨y', ts', rfl, hy, -⟩ := hlater.cons_left
        simp only [Cson.keyColumn?, hx.token, hy.token, hx.column]
        split <;> rfl

/-- Columns that keep their order compare as before. -/
theorem isDeeper (hf : StrictMono f) {ts ts' : List Lexeme} (h : Relaid f near ts ts')
    (column : Nat) : isDeeper (f column) ts' = Cson.isDeeper column ts := by
  cases ts with
  | nil =>
    rw [h.eq_nil]
    rfl
  | cons x ts =>
    obtain ⟨y, ts', rfl, hx, -⟩ := h.cons_left
    simp only [Cson.isDeeper, hx.column, hf.lt_iff_lt]

variable {size size' : Nat}

/-- What is wanted at the front is wanted at the moved place. -/
theorem wantedAt (hsize : near size size') (wanted : Wanted) {ts ts' : List Lexeme}
    (h : Relaid f near ts ts') :
    (Cson.wantedAt wanted size ts).Moved near (Cson.wantedAt wanted size' ts') := by
  cases ts with
  | nil =>
    rw [h.eq_nil]
    exact ⟨rfl, hsize⟩
  | cons x ts =>
    obtain ⟨y, ts', rfl, hx, -⟩ := h.cons_left
    exact ⟨by simp only [Cson.wantedAt, hx.token], hx.offset⟩

/-- A key is read alike, or refused with an error that moves along. -/
theorem key (hsize : near size size') {ts ts' : List Lexeme} (h : Relaid f near ts ts') :
    Found (Relaid f near) (Error.Moved near) (outcome (key size ts))
      (outcome (Cson.key size' ts')) := by
  have hkey := h.wantedAt hsize .key
  cases ts with
  | nil =>
    rw [h.eq_nil] at hkey ⊢
    exact .error hkey
  | cons x ts =>
    obtain ⟨x', ts', rfl, hx, hrest⟩ := h.cons_left
    simp only [Cson.key, hx.token]
    cases hname : x.token.keyText? with
    | none => exact .error hkey
    | some name =>
      have hlater : Relaid f near ts ts' := hrest fun hline => by simp [hline, Token.keyText?] at hname
      have hcolon := hlater.wantedAt hsize .colon
      cases ts with
      | nil =>
        rw [hlater.eq_nil] at hcolon ⊢
        exact .error hcolon
      | cons y ts =>
        obtain ⟨y', ts', rfl, hy, hlast⟩ := hlater.cons_left
        simp only [hy.token]
        by_cases hsep : y.token = .colon
        · rw [if_pos hsep, if_pos hsep]
          exact .ok name (hlast (by simp [hsep]))
        · rw [if_neg hsep, if_neg hsep]
          exact .error hcolon

/-- The parser runs alike on tokens that are laid out in another way. -/
def simulation (hf : StrictMono f) (hsize : near size size') : Simulation size size' where
  column := f
  before := Relaid f near
  behind := Relaid f near
  error := Error.Moved near
  column_injective := hf.injective
  cons h := by
    obtain ⟨y, ts', rfl, hx, hrest⟩ := h.cons_left
    exact ⟨y, ts', rfl, hx.token, hx.column, hrest⟩
  nil := eq_nil
  keyColumn := keyColumn?
  key := key hsize
  wanted wanted h := h.wantedAt hsize wanted
  deeper column h := h.isDeeper hf column
  newlines h := ⟨h.crossesLine_iff, h.dropWhile_isNewline⟩
  newlines_behind h := ⟨h.crossesLine_iff, fun _ => h.dropWhile_isNewline⟩
  separators := dropWhile_isSeparator
  last {ts ts'} h := by
    have hlater := h.dropWhile_isNewline
    cases hts : ts.dropWhile isNewline with
    | nil =>
      rw [hts] at hlater
      exact .inl ⟨rfl, hlater.eq_nil⟩
    | cons x later =>
      rw [hts] at hlater
      obtain ⟨y, later', hts', hx, -⟩ := hlater.cons_left
      exact .inr ⟨x, later, y, later', rfl, hts', by rw [hx.token], hx.offset⟩

/-- The same document is found, or the same error at a place that goes with the first one. The
    parser compares columns and takes a run of line ends for one, so columns may move without
    changing their order, and more line ends may stand behind those that are there. -/
theorem documentOfTokens (hf : StrictMono f) (hsize : near size size') {ts ts' : List Lexeme}
    (h : Relaid f near ts ts') :
    (∃ v, documentOfTokens size ts = .ok v ∧ Cson.documentOfTokens size' ts' = .ok v) ∨
      ∃ e e', Cson.documentOfTokens size ts = .error e ∧
        Cson.documentOfTokens size' ts' = .error e' ∧ e.Moved near e' := by
  have hbefore : (simulation hf hsize).before ts ts' := h
  exact (simulation hf hsize).documentOfTokens hbefore

end Relaid

end RuleGraph.Cson
