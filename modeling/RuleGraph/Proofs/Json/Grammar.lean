import RuleGraph.Proofs.Json.Parser

namespace RuleGraph.Json

/-- A word that denotes a value. -/
inductive Keyword : List Char → Document → Prop where
  | yes : Keyword ['t', 'r', 'u', 'e'] (.bool true)
  | no : Keyword ['f', 'a', 'l', 's', 'e'] (.bool false)
  | null : Keyword ['n', 'u', 'l', 'l'] .null

/-- A string, a word, or a number, from its first character. -/
inductive Scalar : List Char → Document → List Char → Prop where
  | string {r text rest : List Char} (h : stringBody r = some (text, rest)) :
      Scalar ('"' :: r) (.string (String.ofList text)) rest
  | keyword {word : List Char} {d : Document} (h : Keyword word d) (rest : List Char) :
      Scalar (word ++ rest) d rest
  | number {s : List Char} {p : Parsed Document s} (h : number? s = some p) :
      Scalar s p.value p.rest

/-- The name of a field and the colon behind it. -/
inductive Name : List Char → String → List Char → Prop where
  | intro {s r text middle rest : List Char} (hquote : skipSpaces s = '"' :: r)
      (hbody : stringBody r = some (text, middle)) (hcolon : skipSpaces middle = ':' :: rest) :
      Name s (String.ofList text) rest

mutual

/-- A value, behind blanks. -/
inductive Value : List Char → Document → List Char → Prop where
  | scalar {s t rest : List Char} {d : Document} (hskip : skipSpaces s = t)
      (h : Scalar t d rest) : Value s d rest
  | emptyObject {s r rest : List Char} (hopen : skipSpaces s = '\x7b' :: r)
      (hclose : skipSpaces r = '\x7d' :: rest) : Value s (.ofFields []) rest
  | object {s r rest : List Char} {fields : List (String × Document)}
      (hopen : skipSpaces s = '\x7b' :: r) (hfields : Members r fields rest) :
      Value s (.ofFields fields) rest
  | emptyArray {s r rest : List Char} (hopen : skipSpaces s = '[' :: r)
      (hclose : skipSpaces r = ']' :: rest) : Value s (.array []) rest
  | array {s r rest : List Char} {items : List Document} (hopen : skipSpaces s = '[' :: r)
      (hitems : Items r items rest) : Value s (.array items) rest

/-- Fields with commas between them and a brace behind them. -/
inductive Members : List Char → List (String × Document) → List Char → Prop where
  | last {s r middle rest : List Char} {name : String} {d : Document} (hname : Name s name r)
      (hvalue : Value r d middle) (hclose : skipSpaces middle = '\x7d' :: rest) :
      Members s [(name, d)] rest
  | more {s r middle later rest : List Char} {name : String} {d : Document}
      {others : List (String × Document)} (hname : Name s name r) (hvalue : Value r d middle)
      (hcomma : skipSpaces middle = ',' :: later) (hothers : Members later others rest) :
      Members s ((name, d) :: others) rest

/-- Items with commas between them and a bracket behind them. -/
inductive Items : List Char → List Document → List Char → Prop where
  | last {s middle rest : List Char} {d : Document} (hvalue : Value s d middle)
      (hclose : skipSpaces middle = ']' :: rest) : Items s [d] rest
  | more {s middle later rest : List Char} {d : Document} {others : List Document}
      (hvalue : Value s d middle) (hcomma : skipSpaces middle = ',' :: later)
      (hothers : Items later others rest) : Items s (d :: others) rest

end

theorem found?_sign?_eq_some_iff {c : Char} {s rest : List Char} {u : Unit} :
    found? (sign? c s) = some (u, rest) ↔ skipSpaces s = c :: rest := by
  rw [found?_sign?]
  cases skipSpaces s with
  | nil => simp
  | cons d r => by_cases hd : d = c <;> simp [hd]

theorem found?_string?_eq_some_iff {s rest : List Char} {name : String} :
    found? (string? s) = some (name, rest) ↔
      ∃ r text, s = '"' :: r ∧ stringBody r = some (text, rest) ∧ String.ofList text = name := by
  rw [found?_string?]
  cases s with
  | nil => simp
  | cons c r =>
    by_cases hc : c = '"' <;> simp [hc]

theorem eq_append_of_word? {word s rest : List Char} {d v : Document}
    (h : found? (word? word d s) = some (v, rest)) : s = word ++ rest ∧ v = d := by
  unfold word? at h
  split at h
  · rename_i hmarks
    obtain ⟨t, rfl⟩ := hmarks.2
    obtain ⟨rfl, rfl⟩ := Prod.mk.inj (Option.some.inj h)
    exact ⟨by simp, rfl⟩
  · cases h

/-- A value without parts is a string, a number or a keyword. -/
theorem scalar_sound {s rest : List Char} {d : Document}
    (h : found? (scalar? s) = some (d, rest)) : Scalar s d rest := by
  have hword : ∀ {word : List Char} {v : Document}, Keyword word v →
      found? (word? word v s) = some (d, rest) → Scalar s d rest := by
    intro word v hkeyword hp
    obtain ⟨rfl, rfl⟩ := eq_append_of_word? hp
    exact .keyword hkeyword rest
  simp only [scalar?, found?_or, Option.or_eq_some_iff] at h
  rcases h with hstring | ⟨-, htrue | ⟨-, hfalse | ⟨-, hnull | ⟨-, hnumber⟩⟩⟩⟩
  · rw [found?_map] at hstring
    obtain ⟨⟨name, left⟩, hname, heq⟩ := Option.map_eq_some_iff.1 hstring
    obtain ⟨rfl, rfl⟩ := Prod.mk.inj heq
    obtain ⟨r, text, rfl, hbody, rfl⟩ := found?_string?_eq_some_iff.1 hname
    exact .string hbody
  · exact hword .yes htrue
  · exact hword .no hfalse
  · exact hword .null hnull
  · obtain ⟨p, hp, heq⟩ := Option.map_eq_some_iff.1 hnumber
    obtain ⟨rfl, rfl⟩ := Prod.mk.inj heq
    exact .number hp

mutual

/-- Whatever the reader finds, the grammar derives. The recursion follows the reader, with less text
    left over in each call. -/
theorem value_sound {room : Nat} {s rest : List Char} {d : Document}
    (h : found? (value? room s) = some (d, rest)) : Value s d rest := by
  rw [found?_value?] at h
  split at h
  · cases h
  · rename_i c r hskip
    have hlt : r.length < s.length := by
      have hle := length_skipSpaces_le s
      rw [hskip, List.length_cons] at hle
      omega
    split at h
    · rename_i hc
      subst hc
      split at h
      · cases h
      · split at h
        · rename_i hclose
          obtain ⟨rfl, rfl⟩ := Prod.mk.inj (Option.some.inj h)
          exact .emptyObject hskip (found?_sign?_eq_some_iff.1 hclose)
        · obtain ⟨⟨fields, left⟩, hfields, heq⟩ := Option.map_eq_some_iff.1 h
          obtain ⟨rfl, rfl⟩ := Prod.mk.inj heq
          exact .object hskip (members_sound hfields)
    · split at h
      · rename_i hc
        subst hc
        split at h
        · cases h
        · split at h
          · rename_i hclose
            obtain ⟨rfl, rfl⟩ := Prod.mk.inj (Option.some.inj h)
            exact .emptyArray hskip (found?_sign?_eq_some_iff.1 hclose)
          · obtain ⟨⟨items, left⟩, hitems, heq⟩ := Option.map_eq_some_iff.1 h
            obtain ⟨rfl, rfl⟩ := Prod.mk.inj heq
            exact .array hskip (items_sound hitems)
      · exact .scalar hskip (scalar_sound h)
termination_by (s.length, 1)
decreasing_by
  all_goals exact Prod.Lex.left _ _ hlt

/-- Fields are separated by commas, and the closing brace follows the last one. -/
theorem members_sound {room : Nat} {s rest : List Char} {fields : List (String × Document)}
    (h : found? (members? room s) = some (fields, rest)) : Members s fields rest := by
  rw [found?_members?] at h
  simp only [Option.bind_eq_bind, Option.bind_eq_some_iff, Prod.exists] at h
  obtain ⟨name, afterName, hstring, u, afterColon, hcolon, d, middle, hvalue, h⟩ := h
  have hname : Name s name afterColon := by
    obtain ⟨r, text, hquote, hbody, rfl⟩ := found?_string?_eq_some_iff.1 hstring
    exact .intro hquote hbody (found?_sign?_eq_some_iff.1 hcolon)
  have hshorter : afterColon.length < s.length :=
    Nat.lt_trans (length_lt_of_found? hcolon)
      (Nat.lt_of_lt_of_le (length_lt_of_found? hstring) (length_skipSpaces_le s))
  have hmiddle := length_lt_of_found? hvalue
  split at h
  · rename_i hcomma
    have hlater := length_lt_of_found? hcomma
    simp only [Option.bind_eq_some_iff, Prod.exists, Option.some.injEq, Prod.mk.injEq] at h
    obtain ⟨others, left, hothers, rfl, rfl⟩ := h
    exact .more hname (value_sound hvalue) (found?_sign?_eq_some_iff.1 hcomma)
      (members_sound hothers)
  · simp only [Option.bind_eq_some_iff, Prod.exists, Option.some.injEq, Prod.mk.injEq] at h
    obtain ⟨u, left, hclose, rfl, rfl⟩ := h
    exact .last hname (value_sound hvalue) (found?_sign?_eq_some_iff.1 hclose)
termination_by (s.length, 2)
decreasing_by
  all_goals
    apply Prod.Lex.left
    omega

/-- Items are separated by commas, and the closing bracket follows the last one. -/
theorem items_sound {room : Nat} {s rest : List Char} {items : List Document}
    (h : found? (items? room s) = some (items, rest)) : Items s items rest := by
  rw [found?_items?] at h
  simp only [Option.bind_eq_bind, Option.bind_eq_some_iff, Prod.exists] at h
  obtain ⟨d, middle, hvalue, h⟩ := h
  have hmiddle := length_lt_of_found? hvalue
  split at h
  · rename_i hcomma
    have hlater := length_lt_of_found? hcomma
    simp only [Option.bind_eq_some_iff, Prod.exists, Option.some.injEq, Prod.mk.injEq] at h
    obtain ⟨others, left, hothers, rfl, rfl⟩ := h
    exact .more (value_sound hvalue) (found?_sign?_eq_some_iff.1 hcomma) (items_sound hothers)
  · simp only [Option.bind_eq_some_iff, Prod.exists, Option.some.injEq, Prod.mk.injEq] at h
    obtain ⟨u, left, hclose, rfl, rfl⟩ := h
    exact .last (value_sound hvalue) (found?_sign?_eq_some_iff.1 hclose)
termination_by (s.length, 2)
decreasing_by
  · exact Prod.Lex.right _ (by decide)
  · exact Prod.Lex.left _ _ (Nat.lt_trans hlater hmiddle)
  · exact Prod.Lex.right _ (by decide)

end

/-- A document that is read is a value with nothing but blanks behind it. -/
theorem value_of_parse? {source : String} {d : Document} (h : parse? source = some d) :
    ∃ rest, Value source.toList d rest ∧ skipSpaces rest = [] := by
  rw [parse?_eq] at h
  obtain ⟨⟨v, rest⟩, hvalue, hrest⟩ := Option.bind_eq_some_iff.1 h
  obtain ⟨hblank, heq⟩ := Option.ite_none_right_eq_some.1 hrest
  obtain rfl := Option.some.inj heq
  exact ⟨rest, value_sound hvalue, hblank⟩

end RuleGraph.Json
