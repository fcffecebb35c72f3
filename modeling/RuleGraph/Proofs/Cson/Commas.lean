import Mathlib.Data.List.Chain
import RuleGraph.Proofs.Cson.Simulation

namespace RuleGraph.Cson

namespace Token

/-- The last token of an item or of an entry. -/
def endsMember : Token → Bool
  | .string _ | .number _ | .word _ | .closeBrace | .closeBracket => true
  | _ => false

/-- The first token of an item or of an entry. -/
def startsMember : Token → Bool
  | .string _ | .number _ | .word _ | .openBrace | .openBracket => true
  | _ => false

theorem startsMember_of_keyText? {t : Token} {name : String} (h : t.keyText? = some name) :
    t.startsMember = true := by
  cases t with
  | string => rfl
  | number => rfl
  | word => rfl
  | _ => cases h

end Token

/-- The first token can end an item, and the second one can start the next item. -/
def Touches (x y : Lexeme) : Prop :=
  x.token.endsMember = true ∧ y.token.startsMember = true

instance (x y : Lexeme) : Decidable (Touches x y) :=
  inferInstanceAs (Decidable (_ ∧ _))

/-- The tokens with a comma wherever two of them touch. -/
def withCommas : List Lexeme → List Lexeme
  | x :: y :: ts =>
    if Touches x y then x :: ⟨.comma, y.place⟩ :: withCommas (y :: ts) else x :: withCommas (y :: ts)
  | ts => ts

/-- What is read behind a token: the same tokens with their commas, or a comma that was added in front
    of them. -/
inductive CommasBehind : List Lexeme → List Lexeme → Prop where
  | same (ts : List Lexeme) : CommasBehind ts (withCommas ts)
  | added {comma y : Lexeme} {ts : List Lexeme} (hcomma : comma.token = .comma)
      (hstart : y.token.startsMember = true) :
      CommasBehind (y :: ts) (comma :: withCommas (y :: ts))

/-- Commas are put in behind the first token, never in front of it. -/
theorem exists_withCommas_cons (x : Lexeme) (ts : List Lexeme) :
    ∃ ts', withCommas (x :: ts) = x :: ts' ∧ CommasBehind ts ts' := by
  cases ts with
  | nil => exact ⟨[], rfl, .same []⟩
  | cons y ts =>
    rw [withCommas]
    split
    · rename_i htouches
      exact ⟨_, rfl, .added rfl htouches.2⟩
    · exact ⟨_, rfl, .same (y :: ts)⟩

/-- No token touches the next one. -/
def NoneTouch (ts : List Lexeme) : Prop :=
  ts.IsChain fun x y => ¬Touches x y

/-- With the commas put in, no item touches the next one. -/
theorem noneTouch_withCommas (ts : List Lexeme) : NoneTouch (withCommas ts) := by
  fun_induction withCommas ts with
  | case1 x y ts htouches ih =>
    obtain ⟨ts', hts', -⟩ := exists_withCommas_cons y ts
    rw [hts'] at ih ⊢
    refine .cons_cons ?_ (.cons_cons ?_ ih)
    · rintro ⟨-, hstart⟩
      cases hstart
    · rintro ⟨hends, -⟩
      cases hends
  | case2 x y ts htouches ih =>
    obtain ⟨ts', hts', -⟩ := exists_withCommas_cons y ts
    rw [hts'] at ih ⊢
    exact .cons_cons htouches ih
  | case3 ts hshort =>
    match ts with
    | [] => exact .nil
    | [x] => exact .singleton x
    | x :: y :: ts => exact (hshort x y ts rfl).elim

/-- No comma is added exactly where no two tokens touch. -/
theorem withCommas_eq_self_iff {ts : List Lexeme} : withCommas ts = ts ↔ NoneTouch ts := by
  refine ⟨fun h => h ▸ noneTouch_withCommas ts, fun h => ?_⟩
  fun_induction withCommas ts with
  | case1 x y ts htouches ih =>
    rw [NoneTouch, List.isChain_cons_cons] at h
    exact absurd htouches h.1
  | case2 x y ts htouches ih =>
    rw [NoneTouch, List.isChain_cons_cons] at h
    rw [ih h.2]
  | case3 ts hshort => rfl

/-- No comma comes behind a token that cannot end an item. -/
theorem withCommas_cons_of_not_endsMember {x : Lexeme} (h : x.token.endsMember = false)
    (ts : List Lexeme) : withCommas (x :: ts) = x :: withCommas ts := by
  cases ts with
  | nil => rfl
  | cons y ts =>
    rw [withCommas, if_neg]
    rintro ⟨hends, -⟩
    rw [h] at hends
    cases hends

theorem not_newline_of_startsMember {x : Lexeme} (h : x.token.startsMember = true) :
    x.token ≠ .newline := by
  intro hline
  rw [hline] at h
  cases h

theorem endsMember_of_isSeparator {x : Lexeme} (h : isSeparator x = true) :
    x.token.endsMember = false := by
  obtain hline | hcomma : x.token = .newline ∨ x.token = .comma := by simpa [isSeparator] using h
  · rw [hline]
    rfl
  · rw [hcomma]
    rfl

/-- Separators that are skipped have no comma added behind them. -/
theorem withCommas_dropWhile {p : Lexeme → Bool} (hp : ∀ x, p x = true → isSeparator x = true)
    (ts : List Lexeme) : withCommas (ts.dropWhile p) = (withCommas ts).dropWhile p := by
  induction ts with
  | nil => rfl
  | cons x ts ih =>
    cases hx : p x with
    | true =>
      rw [withCommas_cons_of_not_endsMember (endsMember_of_isSeparator (hp x hx)),
        List.dropWhile_cons_of_pos hx, List.dropWhile_cons_of_pos hx, ih]
    | false =>
      obtain ⟨ts', hts', -⟩ := exists_withCommas_cons x ts
      rw [List.dropWhile_cons_of_neg (by simp [hx]), hts',
        List.dropWhile_cons_of_neg (by simp [hx])]

/-- A key is directly followed by its colon, so no comma comes between them. -/
theorem keyColumn?_withCommas (ts : List Lexeme) :
    keyColumn? (withCommas ts) = keyColumn? ts := by
  match ts with
  | [] | [_] => rfl
  | x :: y :: ts =>
    rw [withCommas]
    split
    · rename_i htouches
      have hcolon : y.token ≠ .colon := by
        intro heq
        have hstart := htouches.2
        rw [heq] at hstart
        cases hstart
      simp [keyColumn?, hcolon]
    · obtain ⟨ts', hts', -⟩ := exists_withCommas_cons y ts
      rw [hts']
      rfl

/-- A key is read in both lists or in none: its colon touches nothing. -/
theorem key_withCommas (size : Nat) (ts : List Lexeme) :
    Found (fun ts ts' => ts' = withCommas ts) (fun _ _ => True) (outcome (key size ts))
      (outcome (key size (withCommas ts))) := by
  cases hread : outcome (key size ts) with
  | ok found =>
    obtain ⟨name, rest⟩ := found
    obtain ⟨x, colon, rfl, hname, hcolon⟩ := outcome_key_eq_ok_iff.1 hread
    have hends : colon.token.endsMember = false := by rw [hcolon]; rfl
    have htouches : ¬Touches x colon := by
      rintro ⟨-, hstart⟩
      rw [hcolon] at hstart
      cases hstart
    have hread' : outcome (key size (withCommas (x :: colon :: rest))) =
        .ok (name, withCommas rest) := by
      rw [withCommas, if_neg htouches, withCommas_cons_of_not_endsMember hends]
      exact outcome_key_eq_ok_iff.2 ⟨x, colon, rfl, hname, hcolon⟩
    rw [hread']
    exact .ok name rfl
  | error e =>
    -- a comma added behind the key is no colon either
    cases hread' : outcome (key size (withCommas ts)) with
    | error e' => exact .error trivial
    | ok found =>
      obtain ⟨name, rest⟩ := found
      obtain ⟨x, colon, hts, hname, hcolon⟩ := outcome_key_eq_ok_iff.1 hread'
      have hstart : StartsEntry x.place.column (withCommas ts) := hts ▸ .intro hname hcolon
      rw [← keyColumn?_eq_some_iff, keyColumn?_withCommas, keyColumn?_eq_some_iff] at hstart
      generalize x.place.column = column at hstart
      obtain ⟨hname', hcolon'⟩ := hstart
      rw [outcome_key_eq_ok_iff.2 ⟨_, _, rfl, hname', hcolon'⟩] at hread
      cases hread

/-- The commas put in move nothing to another line. -/
theorem crossesLine_withCommas (ts : List Lexeme) :
    CrossesLine ts ↔ CrossesLine (withCommas ts) := by
  cases ts with
  | nil => rfl
  | cons x ts =>
    obtain ⟨ts', hts', -⟩ := exists_withCommas_cons x ts
    rw [hts', crossesLine_cons, crossesLine_cons]

/-- The parser runs alike with the commas and without them. -/
def commaSimulation (size : Nat) : Simulation size size where
  column := id
  before ts ts' := ts' = withCommas ts
  behind := CommasBehind
  error _ _ := True
  column_injective := fun _ _ h => h
  cons := by
    rintro x rest _ rfl
    obtain ⟨ts', hts', hbehind⟩ := exists_withCommas_cons x rest
    exact ⟨x, ts', hts', rfl, rfl, fun _ => hbehind⟩
  nil h := h
  keyColumn := by
    rintro ts _ rfl
    rw [keyColumn?_withCommas, Option.map_id_fun, id]
  key := by
    rintro ts _ rfl
    exact key_withCommas size ts
  wanted _ _ := trivial
  deeper := by
    rintro ts _ c rfl
    cases ts with
    | nil => rfl
    | cons x ts =>
      obtain ⟨ts', hts', -⟩ := exists_withCommas_cons x ts
      rw [hts']
      rfl
  newlines := by
    rintro ts _ rfl
    exact ⟨crossesLine_withCommas ts,
      (withCommas_dropWhile (fun _ => isSeparator_of_isNewline) ts).symm⟩
  newlines_behind := by
    rintro ts _ (_ | ⟨hcomma, hstart⟩)
    · exact ⟨crossesLine_withCommas ts,
        fun _ => (withCommas_dropWhile (fun _ => isSeparator_of_isNewline) ts).symm⟩
    · have hline := not_newline_of_startsMember hstart
      rw [crossesLine_cons, crossesLine_cons, hcomma]
      exact ⟨⟨fun h => absurd h hline, fun h => (by cases h)⟩, fun h => absurd h hline⟩
  separators := by
    rintro ts _ (_ | ⟨hcomma, hstart⟩)
    · exact (withCommas_dropWhile (fun _ h => h) ts).symm
    · rw [withCommas_dropWhile (fun _ h => h), List.dropWhile_cons_of_pos]
      simp [isSeparator, hcomma]
  last := by
    rintro ts _ (_ | ⟨hcomma, hstart⟩)
    · rw [← withCommas_dropWhile (fun _ => isSeparator_of_isNewline)]
      cases ts.dropWhile isNewline with
      | nil => exact .inl ⟨rfl, rfl⟩
      | cons x later =>
        obtain ⟨later', hlater', -⟩ := exists_withCommas_cons x later
        exact .inr ⟨x, later, x, later', rfl, hlater', trivial⟩
    · have hline := not_newline_of_startsMember hstart
      refine .inr ⟨_, _, _, _, List.dropWhile_cons_of_neg ?_, List.dropWhile_cons_of_neg ?_, trivial⟩
      · simpa [isNewline] using hline
      · simp [isNewline, hcomma]

/-- The same documents are found with the commas and without them: the parser reads on as if a comma
    stood wherever one token can end an item and the next one can start another. -/
theorem documentOfTokens_withCommas {size : Nat} {ts : List Lexeme} {v : Document} :
    documentOfTokens size (withCommas ts) = .ok v ↔ documentOfTokens size ts = .ok v := by
  have hbefore : (commaSimulation size).before ts (withCommas ts) := rfl
  obtain ⟨w, hw, hw'⟩ | ⟨e, e', he, he', -⟩ := (commaSimulation size).documentOfTokens hbefore
  · rw [hw, hw']
  · simp only [he, he', reduceCtorEq]

end RuleGraph.Cson
