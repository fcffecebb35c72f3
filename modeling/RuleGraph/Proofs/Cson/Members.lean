import RuleGraph.Proofs.Cson.Commas
import RuleGraph.Proofs.Cson.Grammar.Soundness
import RuleGraph.Proofs.Cson.Grammar.Completeness

namespace RuleGraph.Cson

/-- Phrases of one kind with any number of line ends and commas before, between and after them. -/
inductive Sequence {α : Type} (phrase : List Lexeme → List Lexeme → α → Prop) :
    List Lexeme → List Lexeme → List α → Prop where
  | nil {separators follow : List Lexeme} (hseparators : Separators separators) :
      Sequence phrase separators follow []
  | cons {separators first later follow : List Lexeme} {a : α} {others : List α}
      (hseparators : Separators separators) (hfirst : phrase first (later ++ follow) a)
      (hothers : Sequence phrase later follow others) :
      Sequence phrase (separators ++ first ++ later) follow (a :: others)

/-- An entry in any column. -/
def AnyEntry (ts follow : List Lexeme) (e : String × Document) : Prop :=
  ∃ column, Entry column ts follow e

/-- The items of an array follow each other with separators between them, which may be none. -/
theorem Items.sequence {ts follow : List Lexeme} {items : List Document}
    (h : Items ts follow items) : Sequence Item ts follow items := by
  induction items generalizing ts with
  | nil =>
    cases h with
    | nil hseparators => exact .nil hseparators
  | cons v others ih =>
    cases h with
    | cons hseparators hitem hothers => exact .cons hseparators hitem (ih hothers)

theorem Fields.sequence {ts follow : List Lexeme} {fields : List (String × Document)}
    (h : Fields ts follow fields) : Sequence AnyEntry ts follow fields := by
  induction fields generalizing ts with
  | nil =>
    cases h with
    | nil hseparators => exact .nil hseparators
  | cons e others ih =>
    cases h with
    | cons hseparators hentry hothers => exact .cons hseparators ⟨_, hentry⟩ (ih hothers)

/-- Two consecutive phrases behind an opening token, and the separators between them. -/
inductive ConsecutiveIn {α : Type} (opening : Token)
    (phrase : List Lexeme → List Lexeme → α → Prop) : List Lexeme → List Lexeme → Prop where
  | intro {open' : Lexeme} {before earlier first between second after : List Lexeme}
      {as : List α} {a b : α} (hopen : open'.token = opening)
      (hearlier : Sequence phrase earlier (first ++ between ++ second ++ after) as)
      (hfirst : phrase first (between ++ second ++ after) a) (hbetween : Separators between)
      (hsecond : phrase second after b) :
      ConsecutiveIn opening phrase
        (before ++ open' :: (earlier ++ first ++ between ++ second ++ after)) between

/-- Two consecutive items of an array, or entries of an object in braces, and the separators between
    them. -/
def Consecutive (ts between : List Lexeme) : Prop :=
  ConsecutiveIn .openBracket Item ts between ∨ ConsecutiveIn .openBrace AnyEntry ts between

/-- The token is a key with its colon, or it denotes a value, or it has no text. -/
def IsData (x : Lexeme) (rest : List Lexeme) : Prop :=
  x.token.keyText? = none ∨ StartsEntry x.place.column (x :: rest) ∨ ∃ v, Scalar x.token v

/-- All tokens that have a text are keys or values. -/
def OnlyData : List Lexeme → Prop
  | [] => True
  | x :: rest => IsData x rest ∧ OnlyData rest

theorem OnlyData.append {ts rest : List Lexeme} (h : ∀ x ∈ ts, x.token.keyText? = none)
    (hrest : OnlyData rest) : OnlyData (ts ++ rest) := by
  induction ts with
  | nil => exact hrest
  | cons x ts ih =>
    rw [List.forall_mem_cons] at h
    exact ⟨.inl h.1, ih h.2⟩

theorem Separators.keyText?_eq_none {ts : List Lexeme} (h : Separators ts) :
    ∀ x ∈ ts, x.token.keyText? = none := by
  intro x hx
  obtain hline | hcomma := h x hx
  · rw [hline]
    rfl
  · rw [hcomma]
    rfl

mutual

/-- What is accepted is data: each text among the tokens is a key or a value. One case for each rule
    of the grammar. -/
theorem Item.onlyData {ts follow : List Lexeme} {v : Document} :
    Item ts follow v → OnlyData follow → OnlyData (ts ++ follow)
  | .implied _ hfields => hfields.onlyData
  | .value _ hvalue => hvalue.onlyData

theorem Value.onlyData {ts follow : List Lexeme} {v : Document} :
    Value ts follow v → OnlyData follow → OnlyData (ts ++ follow)
  | .scalar h, hfollow => ⟨.inr (.inr ⟨v, h⟩), hfollow⟩
  | .object hopen hfields hclose, hfollow => by
    have hrest := hfields.onlyData ⟨.inl (by rw [hclose]; rfl), hfollow⟩
    rw [List.cons_append, List.append_assoc]
    exact ⟨.inl (by rw [hopen]; rfl), hrest⟩
  | .array hopen hitems hclose, hfollow => by
    have hrest := hitems.onlyData ⟨.inl (by rw [hclose]; rfl), hfollow⟩
    rw [List.cons_append, List.append_assoc]
    exact ⟨.inl (by rw [hopen]; rfl), hrest⟩

theorem Entry.onlyData {column : Nat} {ts follow : List Lexeme} {e : String × Document} :
    Entry column ts follow e → OnlyData follow → OnlyData (ts ++ follow)
  | .intro hkey hcolon hbreaks _ hitem, hfollow => by
    have hrest := OnlyData.append hbreaks.separators.keyText?_eq_none (hitem.onlyData hfollow)
    rw [List.cons_append, List.cons_append, List.append_assoc]
    exact ⟨.inr (.inl (.intro hkey hcolon)), .inl (by rw [hcolon]; rfl), hrest⟩

/-- In an implied object too each text is a key or a value. -/
theorem Implied.onlyData {column : Nat} {ts follow : List Lexeme}
    {fields : List (String × Document)} :
    Implied column ts follow fields → OnlyData follow → OnlyData (ts ++ follow)
  | .last hentry _, hfollow => hentry.onlyData hfollow
  | .more hentry _ hbreaks hothers, hfollow => by
    have hlater := OnlyData.append hbreaks.separators.keyText?_eq_none (hothers.onlyData hfollow)
    rw [← List.append_assoc] at hlater
    have hall := hentry.onlyData hlater
    simpa only [List.append_assoc] using hall

theorem Fields.onlyData {ts follow : List Lexeme} {fields : List (String × Document)} :
    Fields ts follow fields → OnlyData follow → OnlyData (ts ++ follow)
  | .nil hseparators, hfollow => .append hseparators.keyText?_eq_none hfollow
  | .cons hseparators hentry hothers, hfollow => by
    have hlater := hentry.onlyData (hothers.onlyData hfollow)
    have hall := OnlyData.append hseparators.keyText?_eq_none hlater
    simpa only [List.append_assoc] using hall

theorem Items.onlyData {ts follow : List Lexeme} {items : List Document} :
    Items ts follow items → OnlyData follow → OnlyData (ts ++ follow)
  | .nil hseparators, hfollow => .append hseparators.keyText?_eq_none hfollow
  | .cons hseparators hitem hothers, hfollow => by
    have hlater := hitem.onlyData (hothers.onlyData hfollow)
    have hall := OnlyData.append hseparators.keyText?_eq_none hlater
    simpa only [List.append_assoc] using hall

end

/-- No token of an accepted list is code: each text is a key or a value. -/
theorem onlyData_of_documentOfTokens {size : Nat} {ts : List Lexeme} {v : Document}
    (h : documentOfTokens size ts = .ok v) : OnlyData ts := by
  obtain ⟨hbefore, hitem, hafter⟩ := derives_of_documentOfTokens h
  rename_i before taken after
  have hnil : OnlyData [] := trivial
  have hrest : OnlyData after := by
    simpa using OnlyData.append hafter.separators.keyText?_eq_none hnil
  rw [List.append_assoc]
  exact .append hbefore.separators.keyText?_eq_none (hitem.onlyData hrest)

/-- The last token can end an item. -/
def EndsMember (ts : List Lexeme) : Prop :=
  ∃ front x, ts = front ++ [x] ∧ x.token.endsMember = true

theorem EndsMember.append_left {ts : List Lexeme} (h : EndsMember ts) (before : List Lexeme) :
    EndsMember (before ++ ts) := by
  obtain ⟨front, x, rfl, hx⟩ := h
  exact ⟨before ++ front, x, (List.append_assoc ..).symm, hx⟩

theorem Scalar.endsMember {x : Token} {v : Document} (h : Scalar x v) : x.endsMember = true := by
  cases h <;> rfl

mutual

/-- An item ends with a closing mark or a text. One case for each rule of the grammar. -/
theorem Item.endsMember {ts follow : List Lexeme} {v : Document} :
    Item ts follow v → EndsMember ts
  | .implied _ hfields => hfields.endsMember
  | .value _ hvalue => hvalue.endsMember

theorem Value.endsMember {ts follow : List Lexeme} {v : Document} :
    Value ts follow v → EndsMember ts
  | .scalar h => ⟨[], _, rfl, h.endsMember⟩
  | .object _ _ hclose => ⟨_ :: _, _, rfl, by rw [hclose]; rfl⟩
  | .array _ _ hclose => ⟨_ :: _, _, rfl, by rw [hclose]; rfl⟩

theorem Entry.endsMember {column : Nat} {ts follow : List Lexeme} {e : String × Document} :
    Entry column ts follow e → EndsMember ts
  | .intro _ _ _ _ hitem => hitem.endsMember.append_left (_ :: _ :: _)

theorem Implied.endsMember {column : Nat} {ts follow : List Lexeme}
    {fields : List (String × Document)} : Implied column ts follow fields → EndsMember ts
  | .last hentry _ => hentry.endsMember
  | .more _ _ _ hothers => hothers.endsMember.append_left _

end

/-- An item starts with an opening mark or a text. -/
theorem StartsItem.startsMember {ts : List Lexeme} (h : StartsItem ts) :
    ∃ y rest, ts = y :: rest ∧ y.token.startsMember = true := by
  obtain hkey | hopen | hopen := h
  · rename_i y name rest
    exact ⟨y, rest, rfl, Token.startsMember_of_keyText? hkey⟩
  all_goals exact ⟨_, _, rfl, by rw [hopen]; rfl⟩

theorem Entry.startsItem {column : Nat} {ts follow : List Lexeme} {e : String × Document}
    (h : Entry column ts follow e) : StartsItem ts := by
  simpa using (h.startsEntry []).startsItem

/-- Two phrases that follow each other directly touch. -/
theorem ConsecutiveIn.not_noneTouch {α : Type} {opening : Token}
    {phrase : List Lexeme → List Lexeme → α → Prop}
    (hends : ∀ ts follow a, phrase ts follow a → EndsMember ts)
    (hstarts : ∀ ts follow a, phrase ts follow a → StartsItem ts) {ts between : List Lexeme}
    (h : ConsecutiveIn opening phrase ts between) (hnil : between = []) : ¬NoneTouch ts := by
  obtain ⟨hopen, hearlier, hfirst, hbetween, hsecond⟩ := h
  rename_i open' before earlier first second after as a b
  obtain ⟨front, x, rfl, hx⟩ := hends _ _ _ hfirst
  obtain ⟨y, rest, rfl, hy⟩ := (hstarts _ _ _ hsecond).startsMember
  intro hchain
  have hsplit : before ++ open' :: (earlier ++ (front ++ [x]) ++ between ++ y :: rest ++ after) =
      (before ++ open' :: (earlier ++ front)) ++ x :: y :: (rest ++ after) := by
    simp [hnil]
  rw [hsplit, NoneTouch, List.isChain_append_cons_cons] at hchain
  exact hchain.2.1 ⟨hx, hy⟩

/-- Any two consecutive items and entries have a separator between them. -/
def SeparatesMembers (ts : List Lexeme) : Prop :=
  ∀ between, Consecutive ts between → between ≠ []

/-- If no two tokens touch, no two items do. -/
theorem NoneTouch.separatesMembers {ts : List Lexeme} (h : NoneTouch ts) : SeparatesMembers ts := by
  rintro between (hitems | hentries) hnil
  · exact hitems.not_noneTouch (fun _ _ _ hitem => hitem.endsMember)
      (fun _ _ _ hitem => hitem.startsItem) hnil h
  · exact hentries.not_noneTouch (fun _ _ _ ⟨_, hentry⟩ => hentry.endsMember)
      (fun _ _ _ ⟨_, hentry⟩ => hentry.startsItem) hnil h

end RuleGraph.Cson
