import Mathlib.Data.List.Forall2
import RuleGraph.Proofs.Cson.Grammar.Completeness
import RuleGraph.Proofs.Cson.Grammar.Soundness
import RuleGraph.Proofs.Document.Likeness

namespace RuleGraph.Cson

variable {same : String → String → Prop}

/-- The tokens are equal, but for the texts of strings. -/
inductive Token.Like (same : String → String → Prop) : Token → Token → Prop where
  | refl (t : Token) : Like same t t
  | string {s t : String} (h : same s t) : Like same (.string s) (.string t)

/-- The tokens are alike and stand in the same column. The column of a line end counts for
    nothing. -/
structure Lexeme.Like (same : String → String → Prop) (x y : Lexeme) : Prop where
  token : x.token.Like same y.token
  column : x.token ≠ .newline → x.place.column = y.place.column

/-- The tokens are alike one by one. -/
abbrev LikeTokens (same : String → String → Prop) : List Lexeme → List Lexeme → Prop :=
  List.Forall₂ (Lexeme.Like same)

namespace Token.Like

theorem symm {t t' : Token} (h : t.Like same t') : t'.Like (flip same) t := by
  cases h with
  | refl => exact .refl t
  | string h => exact .string h

theorem mono {other : String → String → Prop} (hmono : ∀ s t, same s t → other s t)
    {t t' : Token} (h : t.Like same t') : t.Like other t' := by
  cases h with
  | refl => exact .refl t
  | string h => exact .string (hmono _ _ h)

theorem eq (hsame : ∀ s t, same s t → s = t) {t t' : Token} (h : t.Like same t') : t' = t := by
  cases h with
  | refl => rfl
  | string h => rw [hsame _ _ h]

/-- A token that is no string is like itself only. -/
theorem eq_of_keyText?_eq_none {t t' : Token} (h : t.Like same t') (hkey : t.keyText? = none) :
    t' = t := by
  cases h with
  | refl => rfl
  | string h => cases hkey

/-- A token that names something is like a token that names something like it. -/
theorem keyText? (hrefl : ∀ s, same s s) {t t' : Token} (h : t.Like same t') {name : String}
    (hname : t.keyText? = some name) : ∃ name', t'.keyText? = some name' ∧ same name name' := by
  cases h with
  | refl => exact ⟨name, hname, hrefl name⟩
  | string h =>
    obtain rfl := Option.some.inj hname
    exact ⟨_, rfl, h⟩

theorem exists_keyText? {t t' : Token} (h : t.Like same t') {name : String}
    (hname : t.keyText? = some name) : ∃ name', t'.keyText? = some name' := by
  cases h with
  | refl => exact ⟨name, hname⟩
  | string h => exact ⟨_, rfl⟩

/-- Like tokens are scalars of like documents. -/
theorem scalar {t t' : Token} (h : t.Like same t') {v : Document} (hv : Scalar t v) :
    ∃ v', Scalar t' v' ∧ v.Like same v' := by
  cases h with
  | refl => exact ⟨v, hv, .refl v⟩
  | @string s text h =>
    obtain rfl := scalar_string_iff.1 hv
    exact ⟨_, .string text, .string h⟩

end Token.Like

theorem Lexeme.Like.symm {x y : Lexeme} (h : x.Like same y) : y.Like (flip same) x := by
  refine ⟨h.token.symm, fun hne => (h.column ?_).symm⟩
  intro hx
  exact hne (by rw [h.token.eq_of_keyText?_eq_none (by rw [hx]; rfl), hx])

/-- A token without a text is like itself only. -/
theorem Lexeme.Like.token_eq {x y : Lexeme} (h : x.Like same y) {t : Token} (hx : x.token = t)
    (ht : t.keyText? = none) : y.token = t := by
  rw [h.token.eq_of_keyText?_eq_none (hx ▸ ht), hx]

theorem LikeTokens.symm {ts ts' : List Lexeme} (h : LikeTokens same ts ts') :
    LikeTokens (flip same) ts' ts :=
  h.flip.imp fun _ _ hx => hx.symm

theorem LikeTokens.append {ts ts' us us' : List Lexeme} (h : LikeTokens same ts ts')
    (h' : LikeTokens same us us') : LikeTokens same (ts ++ us) (ts' ++ us') :=
  List.rel_append h h'

theorem exists_append_of_forall₂ {α β : Type} {r : α → β → Prop} {l₁ l₂ : List α} {l : List β}
    (h : List.Forall₂ r (l₁ ++ l₂) l) :
    ∃ m₁ m₂, l = m₁ ++ m₂ ∧ List.Forall₂ r l₁ m₁ ∧ List.Forall₂ r l₂ m₂ := by
  induction l₁ generalizing l with
  | nil => exact ⟨[], l, rfl, .nil, h⟩
  | cons a l₁ ih =>
    cases h with
    | cons hfirst hrest =>
      obtain ⟨m₁, m₂, rfl, h₁, h₂⟩ := ih hrest
      exact ⟨_ :: m₁, m₂, rfl, .cons hfirst h₁, h₂⟩

theorem Newlines.like {ts ts' : List Lexeme} (h : Newlines ts) (hts : LikeTokens same ts ts') :
    Newlines ts' := by
  induction hts with
  | nil => exact h
  | cons hx _ ih =>
    obtain ⟨hfirst, hrest⟩ := List.forall_mem_cons.1 h
    exact List.forall_mem_cons.2 ⟨hx.token_eq hfirst rfl, ih hrest⟩

theorem Separators.like {ts ts' : List Lexeme} (h : Separators ts)
    (hts : LikeTokens same ts ts') : Separators ts' := by
  induction hts with
  | nil => exact h
  | cons hx _ ih =>
    obtain ⟨hfirst, hrest⟩ := List.forall_mem_cons.1 h
    exact List.forall_mem_cons.2
      ⟨hfirst.imp (fun h => hx.token_eq h rfl) fun h => hx.token_eq h rfl, ih hrest⟩

/-- A key stays in its column. -/
theorem Lexeme.Like.column_of_key {x y : Lexeme} (h : x.Like same y) {name : String}
    (hname : x.token.keyText? = some name) : x.place.column = y.place.column := by
  apply h.column
  intro hx
  rw [hx] at hname
  cases hname

/-- An entry starts at a key of any text and a colon. -/
theorem StartsEntry.like {column : Nat} {ts ts' : List Lexeme} (h : StartsEntry column ts)
    (hts : LikeTokens same ts ts') : StartsEntry column ts' := by
  obtain ⟨hkey, hcolon⟩ := h
  cases hts with
  | cons hx hrest =>
    cases hrest with
    | cons hy _ =>
      obtain ⟨name, hname⟩ := hx.token.exists_keyText? hkey
      rw [hx.column_of_key hkey]
      exact .intro hname (hy.token_eq hcolon rfl)

/-- Whether an implied object goes on is decided by columns, not by texts. -/
theorem Continues.like {column : Nat} {ts ts' : List Lexeme} (h : Continues column ts)
    (hts : LikeTokens same ts ts') : Continues column ts' := by
  obtain ⟨breaks, rest, hsome, hbreaks, rfl, hstart⟩ := h
  obtain ⟨breaks', rest', rfl, hlike, hrest⟩ := exists_append_of_forall₂ hts
  refine ⟨breaks', rest', ?_, hbreaks.like hlike, rfl, hstart.like hrest⟩
  rintro rfl
  cases hlike
  exact hsome rfl

/-- An item starts with no line end, so its column counts. -/
theorem StartsDeeper.like {column : Nat} {ts ts' : List Lexeme} (h : StartsDeeper column ts)
    (hitem : StartsItem ts) (hts : LikeTokens same ts ts') : StartsDeeper column ts' := by
  obtain ⟨x, rest, rfl, hdeep⟩ := h
  obtain ⟨y, rest', heq, hnewline, -⟩ := hitem.exists_cons
  obtain ⟨rfl, rfl⟩ := List.cons.inj heq
  cases hts with
  | @cons _ y _ rest' hx _ =>
    have hcolumn := hx.column (by simpa [isNewline] using hnewline)
    exact ⟨y, rest', rfl, hcolumn ▸ hdeep⟩

mutual

/-- The grammar looks at the texts of strings nowhere, so two lists of like tokens in the same
    columns derive documents of the same shape. One case for each rule of the grammar. -/
theorem Item.exists_like (hrefl : ∀ s, same s s) {ts ts' follow follow' : List Lexeme}
    {v : Document} (hts : LikeTokens same ts ts') (hfollow : LikeTokens same follow follow') :
    Item ts follow v → ∃ v', Item ts' follow' v' ∧ v.Like same v'
  | .implied hstart hfields => by
    have hwhole := LikeTokens.append hts hfollow
    obtain ⟨fields', hfields', hlike⟩ := hfields.exists_like hrefl hts hfollow
    exact ⟨_, .implied (hstart.like hwhole) hfields', .object hlike⟩
  | .value hstart hvalue => by
    have hwhole := LikeTokens.append hts hfollow
    obtain ⟨v', hvalue', hlike⟩ := hvalue.exists_like hrefl hts hfollow
    exact ⟨v', .value (fun column h => hstart column (h.like hwhole.symm)) hvalue', hlike⟩

theorem Value.exists_like (hrefl : ∀ s, same s s) {ts ts' follow follow' : List Lexeme}
    {v : Document} (hts : LikeTokens same ts ts') (hfollow : LikeTokens same follow follow') :
    Value ts follow v → ∃ v', Value ts' follow' v' ∧ v.Like same v'
  | .scalar h => by
    cases hts with
    | cons hx hrest =>
      cases hrest
      obtain ⟨v', hv', hlike⟩ := hx.token.scalar h
      exact ⟨v', .scalar hv', hlike⟩
  | .object hopen hfields hclose => by
    cases hts with
    | cons hx hrest =>
      obtain ⟨inner, last, rfl, hinner, hlast⟩ := exists_append_of_forall₂ hrest
      cases hlast with
      | cons hy hnil =>
        cases hnil
        obtain ⟨fields', hfields', hlike⟩ :=
          hfields.exists_like hrefl hinner (.cons hy hfollow)
        exact ⟨_, .object (hx.token_eq hopen rfl) hfields' (hy.token_eq hclose rfl),
          .object hlike⟩
  | .array hopen hitems hclose => by
    cases hts with
    | cons hx hrest =>
      obtain ⟨inner, last, rfl, hinner, hlast⟩ := exists_append_of_forall₂ hrest
      cases hlast with
      | cons hy hnil =>
        cases hnil
        obtain ⟨items', hitems', hlike⟩ := hitems.exists_like hrefl hinner (.cons hy hfollow)
        exact ⟨_, .array (hx.token_eq hopen rfl) hitems' (hy.token_eq hclose rfl), .array hlike⟩

/-- Like entries have like names. -/
theorem Entry.exists_like (hrefl : ∀ s, same s s) {column : Nat}
    {ts ts' follow follow' : List Lexeme} {e : String × Document} (hts : LikeTokens same ts ts')
    (hfollow : LikeTokens same follow follow') :
    Entry column ts follow e →
      ∃ name v', Entry column ts' follow' (name, v') ∧ same e.1 name ∧ e.2.Like same v'
  | .intro hkey hcolon hbreaks hdeeper hitem => by
    cases hts with
    | cons hx hrest =>
      cases hrest with
      | cons hy hrest =>
        obtain ⟨breaks', ts', rfl, hlike, hlater⟩ := exists_append_of_forall₂ hrest
        obtain ⟨name, hname, hsame⟩ := hx.token.keyText? hrefl hkey
        obtain ⟨v', hitem', hv'⟩ := hitem.exists_like hrefl hlater hfollow
        rw [hx.column_of_key hkey] at hdeeper ⊢
        refine ⟨name, v', .intro hname (hy.token_eq hcolon rfl) (hbreaks.like hlike) ?_ hitem',
          hsame, hv'⟩
        intro hsome
        refine (hdeeper ?_).like hitem.startsItem hlater
        rintro rfl
        cases hlike
        exact hsome rfl

/-- An implied object ends at the same place in both lists. -/
theorem Implied.exists_like (hrefl : ∀ s, same s s) {column : Nat}
    {ts ts' follow follow' : List Lexeme} {fields : List (String × Document)}
    (hts : LikeTokens same ts ts') (hfollow : LikeTokens same follow follow') :
    Implied column ts follow fields →
      ∃ fields', Implied column ts' follow' fields' ∧ Document.LikeFields same fields fields'
  | .last hentry hend => by
    obtain ⟨name, v', hentry', hname, hv'⟩ := hentry.exists_like hrefl hts hfollow
    exact ⟨_, .last hentry' fun h => hend (h.like hfollow.symm), .cons hname hv' .nil⟩
  | .more hentry hsome hbreaks hothers => by
    obtain ⟨front, later', rfl, hfront, hlater⟩ := exists_append_of_forall₂ hts
    obtain ⟨first', breaks', rfl, hfirst, hlike⟩ := exists_append_of_forall₂ hfront
    obtain ⟨name, v', hentry', hname, hv'⟩ := hentry.exists_like hrefl hfirst
      ((LikeTokens.append hlike hlater).append hfollow)
    obtain ⟨others', hothers', hfields⟩ := hothers.exists_like hrefl hlater hfollow
    refine ⟨_, .more hentry' ?_ (hbreaks.like hlike) hothers', .cons hname hv' hfields⟩
    rintro rfl
    cases hlike
    exact hsome rfl

theorem Fields.exists_like (hrefl : ∀ s, same s s) {ts ts' follow follow' : List Lexeme}
    {fields : List (String × Document)} (hts : LikeTokens same ts ts')
    (hfollow : LikeTokens same follow follow') :
    Fields ts follow fields →
      ∃ fields', Fields ts' follow' fields' ∧ Document.LikeFields same fields fields'
  | .nil hseparators => ⟨[], .nil (hseparators.like hts), .nil⟩
  | .cons hseparators hentry hothers => by
    obtain ⟨front, later', rfl, hfront, hlater⟩ := exists_append_of_forall₂ hts
    obtain ⟨separators', first', rfl, hlike, hfirst⟩ := exists_append_of_forall₂ hfront
    obtain ⟨name, v', hentry', hname, hv'⟩ :=
      hentry.exists_like hrefl hfirst (LikeTokens.append hlater hfollow)
    obtain ⟨others', hothers', hfields⟩ := hothers.exists_like hrefl hlater hfollow
    exact ⟨_, .cons (hseparators.like hlike) hentry' hothers', .cons hname hv' hfields⟩

theorem Items.exists_like (hrefl : ∀ s, same s s) {ts ts' follow follow' : List Lexeme}
    {items : List Document} (hts : LikeTokens same ts ts')
    (hfollow : LikeTokens same follow follow') :
    Items ts follow items →
      ∃ items', Items ts' follow' items' ∧ Document.LikeItems same items items'
  | .nil hseparators => ⟨[], .nil (hseparators.like hts), .nil⟩
  | .cons hseparators hitem hothers => by
    obtain ⟨front, later', rfl, hfront, hlater⟩ := exists_append_of_forall₂ hts
    obtain ⟨separators', first', rfl, hlike, hfirst⟩ := exists_append_of_forall₂ hfront
    obtain ⟨v', hitem', hv'⟩ :=
      hitem.exists_like hrefl hfirst (LikeTokens.append hlater hfollow)
    obtain ⟨others', hothers', hitems⟩ := hothers.exists_like hrefl hlater hfollow
    exact ⟨_, .cons (hseparators.like hlike) hitem' hothers', .cons hv' hitems⟩

end

/-- Tokens that differ in the texts of strings only derive documents that differ in texts only. -/
theorem Derives.exists_like (hrefl : ∀ s, same s s) {ts ts' : List Lexeme} {v : Document}
    (h : Derives ts v) (hts : LikeTokens same ts ts') :
    ∃ v', Derives ts' v' ∧ v.Like same v' := by
  obtain ⟨hbefore, hitem, hafter⟩ := h
  obtain ⟨front, after', rfl, hfront, hlast⟩ := exists_append_of_forall₂ hts
  obtain ⟨before', middle, rfl, hfirst, hmiddle⟩ := exists_append_of_forall₂ hfront
  obtain ⟨v', hitem', hlike⟩ := hitem.exists_like hrefl hmiddle hlast
  exact ⟨v', .intro (hbefore.like hfirst) hitem' (hafter.like hlast), hlike⟩

/-- Both results are errors, or they are values that are related. -/
inductive Agree {α : Type} (related : α → α → Prop) : Except Error α → Except Error α → Prop where
  | ok {a b : α} (h : related a b) : Agree related (.ok a) (.ok b)
  | error (e e' : Error) : Agree related (.error e) (.error e')

theorem Agree.mono {α : Type} {related related' : α → α → Prop} {x y : Except Error α}
    (h : Agree related x y) (hmono : ∀ a b, related a b → related' a b) : Agree related' x y := by
  cases h with
  | ok h => exact .ok (hmono _ _ h)
  | error e e' => exact .error e e'

/-- Where one reading gives a document, an agreeing one gives a related document. -/
theorem Agree.exists_right {α : Type} {related : α → α → Prop} {x y : Except Error α} {a : α}
    (h : Agree related x y) (hx : x = .ok a) : ∃ b, y = .ok b ∧ related a b := by
  cases h with
  | ok hab =>
    obtain rfl := Except.ok.inj hx
    exact ⟨_, rfl, hab⟩
  | error e e' => cases hx

theorem Agree.exists_left {α : Type} {related : α → α → Prop} {x y : Except Error α} {b : α}
    (h : Agree related x y) (hy : y = .ok b) : ∃ a, x = .ok a ∧ related a b := by
  cases h with
  | ok hab =>
    obtain rfl := Except.ok.inj hy
    exact ⟨_, rfl, hab⟩
  | error e e' => cases hy

/-- Sources are read alike if their tokens are alike and such tokens have like documents. -/
theorem agree_parse {like : List Lexeme → List Lexeme → Prop}
    {related : Document → Document → Prop} {source : String} {s : List Char}
    (htokens : Agree like (tokensFrom {} source.toList) (tokensFrom {} s))
    (hdocument : ∀ ts ts' size size', like ts ts' →
      Agree related (documentOfTokens size ts) (documentOfTokens size' ts')) :
    Agree related (parse source) (parse (String.ofList s)) := by
  rw [parse, parse, tokens, tokens, String.toList_ofList]
  generalize tokensFrom {} source.toList = x at htokens
  generalize tokensFrom {} s = y at htokens
  cases htokens with
  | error e e' => exact .error e e'
  | ok hts => exact hdocument _ _ _ _ hts

/-- Like tokens are both refused, or they are read as like documents. -/
theorem LikeTokens.agree_documentOfTokens (hrefl : ∀ s, same s s) {ts ts' : List Lexeme}
    (h : LikeTokens same ts ts') (size size' : Nat) :
    Agree (Document.Like same) (documentOfTokens size ts) (documentOfTokens size' ts') := by
  cases hread : documentOfTokens size ts with
  | ok v =>
    obtain ⟨v', hderived, hlike⟩ := (derives_of_documentOfTokens hread).exists_like hrefl h
    rw [hderived.read size']
    exact .ok hlike
  | error e =>
    cases hread' : documentOfTokens size' ts' with
    | error e' => exact .error e e'
    | ok v' =>
      have hrefl' : ∀ s, flip same s s := hrefl
      obtain ⟨v, hderived, -⟩ := (derives_of_documentOfTokens hread').exists_like hrefl' h.symm
      rw [hderived.read size] at hread
      cases hread

end RuleGraph.Cson
