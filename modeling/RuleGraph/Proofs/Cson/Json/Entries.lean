import RuleGraph.Proofs.Cson.Json.Scalars

namespace RuleGraph.Cson

open Document

theorem suffix_of_skipSpaces {source s r : List Char} {c : Char} (hs : s <:+ source)
    (hskip : Json.skipSpaces s = c :: r) : r <:+ source := by
  have hr : r <:+ Json.skipSpaces s := hskip ▸ List.suffix_cons c r
  exact hr.trans ((List.dropWhile_suffix _).trans hs)

theorem suffix_skipSpaces {source s : List Char} (hs : s <:+ source) :
    Json.skipSpaces s <:+ source :=
  (List.dropWhile_suffix _).trans hs

theorem keyColumn?_of_ne_colon {x : Lexeme} {later : List Lexeme}
    (h : ∀ y ∈ later.head?, y.token ≠ .colon) : keyColumn? (x :: later) = none := by
  cases later with
  | nil => rfl
  | cons y later => simp [keyColumn?, h y rfl]

theorem keyColumn?_of_keyText?_eq_none {x : Lexeme} (h : x.token.keyText? = none)
    (later : List Lexeme) : keyColumn? (x :: later) = none := by
  cases later with
  | nil => rfl
  | cons y later => simp [keyColumn?, h]

/-- In front of a comma or a closing mark a value may end, with blanks between them or without. -/
theorem ends_of_skipSpaces {rest r : List Char} {c : Char} (hskip : Json.skipSpaces rest = c :: r)
    (hc : c ∈ [',', ']', '\x7d']) : Ends rest := by
  intro d hd
  rw [hskip] at hd
  obtain rfl := Option.some.inj hd
  exact hc

/-- The tokens of a value of JSON begin, behind line ends, with one that can begin an item. -/
theorem exists_startsItem {source s rest : List Char} {d : Document} (h : Json.Value s d rest)
    (hs : s <:+ source) (hends : Ends rest) {place : Place} {ts : List Lexeme}
    (hts : tokensFrom place s = .ok ts) :
    ∃ breaks later, ts = breaks ++ later ∧ Newlines breaks ∧ StartsItem later := by
  have hopen : ∀ {c : Char} {token : Token} {r : List Char}, punctuation c = some token →
      Json.skipSpaces s = c :: r →
      (∀ x : Lexeme, x.token = token → ∀ more, StartsItem (x :: more)) →
      ∃ breaks later, ts = breaks ++ later ∧ Newlines breaks ∧ StartsItem later := by
    intro c token r hc hskip hstart
    obtain ⟨breaks, x, place', later, rfl, hbreaks, hx, -⟩ := exists_sign hc hskip hts
    exact ⟨breaks, x :: later, rfl, hbreaks, hstart x hx later⟩
  cases h with
  | scalar hskip hscalar =>
    obtain ⟨breaks, place', later, rfl, hbreaks, hlater⟩ := exists_tokensFrom_skipSpaces hts
    have ht := suffix_skipSpaces hs
    rw [hskip] at hlater ht
    obtain ⟨x, others, rfl, hkey, -⟩ := exists_scalar_token hscalar ht hends hlater
    obtain ⟨name, hname⟩ := Option.isSome_iff_exists.1 hkey
    exact ⟨breaks, x :: others, rfl, hbreaks, .key hname⟩
  | emptyObject hskip _ => exact hopen rfl hskip fun x hx _ => .brace hx
  | object hskip _ => exact hopen rfl hskip fun x hx _ => .brace hx
  | emptyArray hskip _ => exact hopen rfl hskip fun x hx _ => .bracket hx
  | array hskip _ => exact hopen rfl hskip fun x hx _ => .bracket hx

/-- The name of a field of JSON is a key with the same text. -/
theorem exists_name_token {source s rest : List Char} {name : String} (h : Json.Name s name rest)
    (hs : s <:+ source) {place : Place} {ts : List Lexeme} (hts : tokensFrom place s = .ok ts) :
    ∃ breaks x later text, ts = breaks ++ x :: later ∧ Newlines breaks ∧
      x.token = .string text ∧ Halves source text name ∧
      ∀ colon others, later = colon :: others → colon.token = .colon →
        rest <:+ source ∧ ∃ place', tokensFrom place' rest = .ok others := by
  obtain ⟨hquote, hbody, hcolon⟩ := h
  rename_i r text middle
  obtain ⟨breaks, place', others, rfl, hbreaks, hothers⟩ := exists_tokensFrom_skipSpaces hts
  have ht := suffix_skipSpaces hs
  rw [hquote] at hothers ht
  have hnoquote : middle.head? ≠ some '"' := by
    intro hhead
    obtain ⟨m, rfl⟩ := List.head?_eq_some_iff.1 hhead
    cases hcolon
  obtain ⟨x, place'', later, text', rfl, hx, hhalves, hlater, hmiddle⟩ :=
    exists_string_token hbody ht hnoquote hothers
  refine ⟨breaks, x, later, text', rfl, hbreaks, hx, hhalves, ?_⟩
  rintro colon others rfl hcolon'
  obtain ⟨breaks', y, last, more, heq, hbreaks', -, hmore⟩ := exists_sign rfl hcolon hlater
  refine ⟨suffix_of_skipSpaces hmiddle hcolon, last, ?_⟩
  -- The colon follows its key directly, so no line end stands between them.
  cases breaks' with
  | nil =>
    obtain ⟨-, rfl⟩ := List.cons.inj heq
    exact hmore
  | cons b breaks' =>
    obtain ⟨rfl, -⟩ := List.cons.inj heq
    rw [hbreaks' _ List.mem_cons_self] at hcolon'
    cases hcolon'

/-- A comma between two members is skipped, whatever was read before it. -/
theorem members_comma {breaks : List Lexeme} (h : Newlines breaks) {x : Lexeme}
    (hx : x.token = .comma) {α : Type} {size : Nat} {wanted : Wanted} {close : Token}
    {first : Lexeme → List Lexeme → Except Error (α × List Lexeme)}
    {others : List Lexeme → Except Error (List α × List Lexeme)} (later : List Lexeme) :
    members size wanted close first others (breaks ++ x :: later) =
      members size wanted close first others later := by
  have hcomma : Separators [x] := fun y hy => .inr (List.mem_singleton.1 hy ▸ hx)
  rw [members_append h.separators, ← List.singleton_append, members_append hcomma]

section Items

variable {size : Nat} {x : Lexeme} {later left : List Lexeme} {v : Document}

/-- A token that could be a key but has no colon behind it is read as a scalar. -/
theorem scalar_of_outcome_item (hkey : x.token.keyText?.isSome)
    (hnext : ∀ y ∈ later.head?, y.token ≠ .colon)
    (h : outcome (item size (x :: later)) = .ok (v, left)) :
    Scalar x.token v ∧ left = later := by
  rw [outcome_item, keyColumn?_of_ne_colon hnext] at h
  dsimp only at h
  rw [outcome_value, if_neg, if_neg] at h
  · exact outcome_scalar_eq_ok_iff.1 h
  all_goals
    intro hx
    rw [hx] at hkey
    cases hkey

/-- An item that starts with a brace is the object of the fields up to the closing one. -/
theorem exists_fields_of_outcome_item (hx : x.token = .openBrace)
    (h : outcome (item size (x :: later)) = .ok (v, left)) :
    ∃ fields, outcome (bracedFields size later) = .ok (fields, left) ∧ v = ofFields fields := by
  rw [outcome_item, keyColumn?_of_keyText?_eq_none (by rw [hx]; rfl)] at h
  dsimp only at h
  rw [outcome_value, if_pos hx] at h
  obtain ⟨fields, rest, hfields, heq⟩ := map_eq_ok_iff.1 h
  obtain ⟨rfl, rfl⟩ := Prod.mk.inj heq
  exact ⟨fields, hfields, rfl⟩

/-- An item that starts with a bracket is the array of the items up to the closing one. -/
theorem exists_items_of_outcome_item (hx : x.token = .openBracket)
    (h : outcome (item size (x :: later)) = .ok (v, left)) :
    ∃ items, outcome (arrayItems size later) = .ok (items, left) ∧ v = .array items := by
  rw [outcome_item, keyColumn?_of_keyText?_eq_none (by rw [hx]; rfl)] at h
  dsimp only at h
  rw [outcome_value, if_neg (by simp [hx]), if_pos hx] at h
  obtain ⟨items, rest, hitems, heq⟩ := map_eq_ok_iff.1 h
  obtain ⟨rfl, rfl⟩ := Prod.mk.inj heq
  exact ⟨items, hitems, rfl⟩

end Items

/-- Line ends are skipped up to the first other token. -/
theorem dropWhile_isNewline_of_ne {breaks : List Lexeme} (hbreaks : Newlines breaks) {x : Lexeme}
    (hx : x.token ≠ .newline) (later : List Lexeme) :
    (breaks ++ x :: later).dropWhile isNewline = x :: later := by
  rw [List.dropWhile_append_of_pos fun y hy => by simp [isNewline, hbreaks y hy]]
  exact List.dropWhile_cons_of_neg (by simp [isNewline, hx])

/-- The first entry in braces is the first field of JSON: its key is the name, and its value starts
    where the value of the field does. -/
theorem exists_entry {source s r : List Char} {name : String} (hname : Json.Name s name r)
    (hs : s <:+ source) {place : Place} {ts left : List Lexeme} (hts : tokensFrom place s = .ok ts)
    {size : Nat} {entries : List (String × Document)}
    (h : outcome (bracedFields size ts) = .ok (entries, left)) :
    ∃ text v others place' more middle, entries = (text, v) :: others ∧
      Halves source text name ∧ r <:+ source ∧ tokensFrom place' r = .ok more ∧
      outcome (item size (more.dropWhile isNewline)) = .ok (v, middle) ∧
      outcome (bracedFields size middle) = .ok (others, left) := by
  obtain ⟨breaks, x, later, text, rfl, hbreaks, hx, hhalves, hlater⟩ :=
    exists_name_token hname hs hts
  have hkeep : isSeparator x = false := by simp [isSeparator, hx]
  rw [outcome_bracedFields, members_append hbreaks.separators, members_cons hkeep] at h
  simp only [hx, reduceCtorEq, ↓reduceIte, bind_eq_ok_iff, pure_eq_ok_iff] at h
  obtain ⟨e, middle, hentry, others, left', hothers, rfl, rfl⟩ := h
  simp only [entry, bind_eq_ok_iff, pure_eq_ok_iff] at hentry
  obtain ⟨key, more, hkey, v, middle', hvalue, rfl, rfl⟩ := hentry
  obtain ⟨y, colon, heq, hkeyText, hcolon⟩ := outcome_key_eq_ok_iff.1 hkey
  obtain ⟨rfl, rfl⟩ := List.cons.inj heq
  rw [hx] at hkeyText
  obtain rfl := Option.some.inj hkeyText
  obtain ⟨hr, place', hmore⟩ := hlater colon more rfl hcolon
  rw [outcome_entryValue] at hvalue
  split at hvalue
  · cases hvalue
  · exact ⟨_, v, others, place', more, middle', rfl, hhalves, hr, hmore, hvalue, hothers⟩

/-- The first item in brackets starts where the first value of JSON does. -/
theorem exists_item {source s rest : List Char} {d : Document} (hvalue : Json.Value s d rest)
    (hs : s <:+ source) (hends : Ends rest) {place : Place} {ts left : List Lexeme}
    (hts : tokensFrom place s = .ok ts) {size : Nat} {found : List Document}
    (h : outcome (arrayItems size ts) = .ok (found, left)) :
    ∃ v others middle, found = v :: others ∧
      outcome (item size (ts.dropWhile isNewline)) = .ok (v, middle) ∧
      outcome (arrayItems size middle) = .ok (others, left) := by
  obtain ⟨breaks, later, rfl, hbreaks, hstart⟩ := exists_startsItem hvalue hs hends hts
  obtain ⟨x, more, hlater, -, hkeep, -, hclose⟩ := hstart.exists_cons
  rw [outcome_arrayItems, members_append hbreaks.separators, hlater, members_cons hkeep] at h
  simp only [hclose, ↓reduceIte, bind_eq_ok_iff, pure_eq_ok_iff] at h
  obtain ⟨v, middle, hitem, others, left', hothers, rfl, rfl⟩ := h
  rw [hstart.dropWhile_isNewline hbreaks, hlater]
  exact ⟨v, others, middle, rfl, hitem, hothers⟩

end RuleGraph.Cson
