import Mathlib.Data.List.TakeWhile
import RuleGraph.Proofs.Cson.Lookahead

namespace RuleGraph.Cson

theorem Entry.startsEntry {column : Nat} {ts follow : List Lexeme} {e : String × Document}
    (h : Entry column ts follow e) (more : List Lexeme) : StartsEntry column (ts ++ more) := by
  obtain ⟨hkey, hcolon, -, -, -⟩ := h
  exact .intro hkey hcolon

/-- An implied object starts with its first entry, whatever comes behind. -/
theorem Implied.startsEntry {column : Nat} {ts follow : List Lexeme}
    {fields : List (String × Document)} (h : Implied column ts follow fields)
    (more : List Lexeme) : StartsEntry column (ts ++ more) := by
  cases h with
  | last hentry _ => exact hentry.startsEntry more
  | more hentry _ _ _ =>
    rw [List.append_assoc, List.append_assoc]
    exact hentry.startsEntry _

/-- Every scalar could be a key, so only what follows says that it is none. -/
theorem Scalar.isSome_keyText? {x : Token} {v : Document} (h : Scalar x v) : x.keyText?.isSome := by
  cases h <;> rfl

theorem Value.startsItem {ts follow : List Lexeme} {v : Document} (h : Value ts follow v) :
    StartsItem ts := by
  cases h with
  | @scalar x _ _ h =>
    obtain ⟨name, hname⟩ := Option.isSome_iff_exists.1 h.isSome_keyText?
    exact .key hname
  | object hopen _ _ => exact .brace hopen
  | array hopen _ _ => exact .bracket hopen

/-- The first token tells what kind of item it is, an implied object or a value of another kind. -/
theorem Item.startsItem {ts follow : List Lexeme} {v : Document} (h : Item ts follow v) :
    StartsItem ts := by
  cases h with
  | implied _ hfields => simpa using (hfields.startsEntry []).startsItem
  | value _ hvalue => exact hvalue.startsItem

mutual

/-- Whatever the grammar derives, the parser reads: in front of the tokens that follow a phrase,
    each reader takes exactly the phrase and finds what it denotes. The recursion follows the
    derivations, one case for each rule of the grammar. -/
theorem Item.read (size : Nat) {ts follow : List Lexeme} {v : Document} :
    Item ts follow v → outcome (item size (ts ++ follow)) = .ok (v, follow)
  | .implied hstart hfields => by
    rw [outcome_item, keyColumn?_eq_some_iff.2 hstart]
    simp only [hfields.read size, Except.map]
  | .value hstart hvalue => by
    rw [outcome_item, keyColumn?_eq_none_iff.2 hstart]
    exact hvalue.read size

theorem Value.read (size : Nat) {ts follow : List Lexeme} {v : Document} :
    Value ts follow v → outcome (value size (ts ++ follow)) = .ok (v, follow)
  | .scalar h => by
    rw [List.singleton_append, outcome_value, if_neg, if_neg]
    · exact outcome_scalar_eq_ok_iff.2 ⟨h, rfl⟩
    all_goals
      intro hopen
      rw [hopen] at h
      cases h
  | .object hopen hfields hclose => by
    rw [List.cons_append, outcome_value, if_pos hopen, List.append_assoc, List.singleton_append,
      hfields.read size hclose rfl]
    rfl
  | .array hopen hitems hclose => by
    rw [List.cons_append, outcome_value, if_neg (by simp [hopen]), if_pos hopen,
      List.append_assoc, List.singleton_append, hitems.read size hclose rfl]
    rfl

theorem Entry.read (size : Nat) {column : Nat} {ts follow : List Lexeme} {e : String × Document} :
    Entry column ts follow e → entry size column (ts ++ follow) = .ok (e, follow)
  | @Entry.intro x colon name breaks ts _ v hkey hcolon hbreaks hdeeper hitem => by
    have hread : outcome (key size (x :: colon :: (breaks ++ ts) ++ follow)) =
        .ok (name, breaks ++ ts ++ follow) :=
      outcome_key_eq_ok_iff.2 ⟨x, colon, rfl, hkey, hcolon⟩
    have hlater : (breaks ++ ts ++ follow).dropWhile isNewline = ts ++ follow := by
      rw [List.append_assoc]
      exact (hitem.startsItem.append follow).dropWhile_isNewline hbreaks
    have hvalue : outcome (entryValue size x.place.column (breaks ++ ts ++ follow)) =
        .ok (v, follow) := by
      rw [outcome_entryValue, hlater, if_neg]
      · exact hitem.read size
      · rintro ⟨hshorter, hshallow⟩
        have hsome : breaks ≠ [] := by
          rintro rfl
          exact absurd hshorter (Nat.lt_irrefl _)
        obtain ⟨y, rest, rfl, hlt⟩ := hdeeper hsome
        have hdeep := isDeeper_eq_true_iff.2 ⟨y, rest ++ follow, rfl, hlt⟩
        exact Bool.false_ne_true (hshallow.symm.trans hdeep)
    simp only [entry, hread, hvalue, bind, Except.bind, pure, Except.pure]

/-- An implied object is read up to the first line that does not go on with it. -/
theorem Implied.read (size : Nat) {column : Nat} {ts follow : List Lexeme}
    {fields : List (String × Document)} :
    Implied column ts follow fields →
      outcome (impliedFields size column (ts ++ follow)) = .ok (fields, follow)
  | .last hentry hend => by
    rw [outcome_impliedFields, hentry.read size]
    have hstop := mt continues_iff.2 hend
    simp only [bind, Except.bind, hstop, ↓reduceIte, pure, Except.pure]
  | @Implied.more _ first breaks later _ e others hentry hsome hbreaks hothers => by
    have hgo : Continues column (breaks ++ later ++ follow) :=
      ⟨breaks, later ++ follow, hsome, hbreaks, List.append_assoc .., hothers.startsEntry follow⟩
    have hlater : (breaks ++ later ++ follow).dropWhile isNewline = later ++ follow := by
      rw [List.append_assoc]
      exact (hothers.startsEntry follow).startsItem.dropWhile_isNewline hbreaks
    have hwhole : first ++ breaks ++ later ++ follow = first ++ (breaks ++ later ++ follow) := by
      simp only [List.append_assoc]
    rw [hwhole, outcome_impliedFields, hentry.read size]
    have hmore := continues_iff.1 hgo
    simp only [bind, Except.bind, hmore, and_self, ↓reduceIte]
    rw [hlater, hothers.read size]
    rfl

/-- The entries between braces are read up to the closing brace, with that brace. -/
theorem Fields.read (size : Nat) {ts rest follow : List Lexeme} {close : Lexeme}
    {fields : List (String × Document)} (hclose : close.token = .closeBrace)
    (hrest : rest = close :: follow) :
    Fields ts rest fields → outcome (bracedFields size (ts ++ rest)) = .ok (fields, follow)
  | .nil hseparators => by
    rw [hrest, outcome_bracedFields, members_close hseparators hclose (.inl rfl)]
  | @Fields.cons column separators first later _ e others hseparators hentry hothers => by
    have hstart := hentry.startsEntry (later ++ rest)
    obtain ⟨x, tail, hx, -, hkeep, hother, -⟩ := hstart.startsItem.exists_cons
    have hcolumn : x.place.column = column := by
      rw [hx] at hstart
      cases hstart
      rfl
    have hread := hentry.read size
    rw [hx, ← hcolumn] at hread
    rw [List.append_assoc, List.append_assoc, outcome_bracedFields, members_append hseparators,
      hx, members_cons hkeep]
    simp only [hother, ↓reduceIte, hread, bind, Except.bind]
    rw [hothers.read size hclose hrest]
    rfl

/-- The items between brackets are read up to the closing bracket, with that bracket. -/
theorem Items.read (size : Nat) {ts rest follow : List Lexeme} {close : Lexeme}
    {items : List Document} (hclose : close.token = .closeBracket)
    (hrest : rest = close :: follow) :
    Items ts rest items → outcome (arrayItems size (ts ++ rest)) = .ok (items, follow)
  | .nil hseparators => by
    rw [hrest, outcome_arrayItems, members_close hseparators hclose (.inr rfl)]
  | @Items.cons separators first later _ v others hseparators hitem hothers => by
    have hstart := hitem.startsItem.append (later ++ rest)
    obtain ⟨x, tail, hx, -, hkeep, -, hother⟩ := hstart.exists_cons
    have hread := hitem.read size
    rw [hx] at hread
    rw [List.append_assoc, List.append_assoc, outcome_arrayItems, members_append hseparators, hx,
      members_cons hkeep]
    simp only [hother, ↓reduceIte, hread, bind, Except.bind]
    rw [hothers.read size hclose hrest]
    rfl

end

/-- A document that is derived is read, whatever the size of the source. -/
theorem Derives.read {ts : List Lexeme} {v : Document} (h : Derives ts v) (size : Nat) :
    documentOfTokens size ts = .ok v := by
  obtain ⟨hbefore, hitem, hafter⟩ := h
  rename_i before ts after
  rw [documentOfTokens_eq, List.append_assoc,
    (hitem.startsItem.append after).dropWhile_isNewline hbefore, hitem.read size]
  have hlast : after.dropWhile isNewline = [] :=
    List.dropWhile_eq_nil_iff.2 fun x hx => by simp [isNewline, hafter x hx]
  simp only [bind, Except.bind, hlast]
  rfl

end RuleGraph.Cson
