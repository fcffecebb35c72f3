import RuleGraph.Cson.Parser

namespace RuleGraph.Cson

/-- What a reader found and what it left over. -/
def outcome {α : Type} {ts : List Lexeme} (read : Except Error (Parsed α ts)) :
    Except Error (α × List Lexeme) :=
  read.map fun p => (p.value, p.rest)

@[simp] theorem outcome_ok {α : Type} {ts : List Lexeme} (p : Parsed α ts) :
    outcome (.ok p) = .ok (p.value, p.rest) := rfl

@[simp] theorem outcome_error {α : Type} {ts : List Lexeme} (e : Error) :
    outcome (.error e : Except Error (Parsed α ts)) = .error e := rfl

/-- A reading in two steps succeeds exactly if both do. -/
theorem bind_eq_ok_iff {α β : Type} {x : Except Error (α × List Lexeme)}
    {f : α × List Lexeme → Except Error β} {b : β} :
    (x >>= f) = .ok b ↔ ∃ a rest, x = .ok (a, rest) ∧ f (a, rest) = .ok b := by
  rcases x with e | ⟨a, rest⟩ <;> simp [bind, Except.bind, and_assoc]

theorem map_eq_ok_iff {α β : Type} {x : Except Error (α × List Lexeme)}
    {f : α × List Lexeme → β} {b : β} :
    x.map f = .ok b ↔ ∃ a rest, x = .ok (a, rest) ∧ f (a, rest) = b := by
  rcases x with e | ⟨a, rest⟩ <;> simp [Except.map, and_assoc]

theorem pure_eq_ok_iff {α : Type} {a : α} {rest rest' : List Lexeme} {b : α} :
    (pure (a, rest) : Except Error (α × List Lexeme)) = .ok (b, rest') ↔ a = b ∧ rest = rest' := by
  simp [pure, Except.pure]

/-- A reader that succeeds leaves less over than it was given. -/
theorem length_lt_of_outcome {α : Type} {ts rest : List Lexeme} {a : α}
    {read : Except Error (Parsed α ts)} (h : outcome read = .ok (a, rest)) :
    rest.length < ts.length := by
  cases read with
  | error e => cases h
  | ok p =>
    obtain ⟨rfl, rfl⟩ := Prod.mk.inj (Except.ok.inj h)
    exact p.shorter

/-- An item is an implied object where a key is seen, and a value of another kind elsewhere. -/
theorem outcome_item (size : Nat) (ts : List Lexeme) :
    outcome (item size ts) =
      match keyColumn? ts with
      | some column =>
        (outcome (impliedFields size column ts)).map fun (fields, rest) =>
          (Document.ofFields fields, rest)
      | none => outcome (value size ts) := by
  rw [item]
  cases keyColumn? ts with
  | none => rfl
  | some column =>
    dsimp only
    cases impliedFields size column ts <;> rfl

/-- A value on a later line than its key has to stand deeper. -/
theorem outcome_entryValue (size column : Nat) (ts : List Lexeme) :
    outcome (entryValue size column ts) =
      if (ts.dropWhile isNewline).length < ts.length ∧
          isDeeper column (ts.dropWhile isNewline) = false then
        .error (wantedAt .indentedValue size (ts.dropWhile isNewline))
      else outcome (item size (ts.dropWhile isNewline)) := by
  rw [entryValue]
  split
  · rfl
  · cases item size (ts.dropWhile isNewline) <;> rfl

/-- One entry of an object: its key, the colon, and its value. -/
def entry (size column : Nat) (ts : List Lexeme) :
    Except Error ((String × Document) × List Lexeme) := do
  let (name, rest) ← outcome (key size ts)
  let (v, rest) ← outcome (entryValue size column rest)
  pure ((name, v), rest)

theorem length_lt_of_entry {size column : Nat} {ts rest : List Lexeme} {e : String × Document}
    (h : entry size column ts = .ok (e, rest)) : rest.length < ts.length := by
  simp only [entry, bind_eq_ok_iff, pure_eq_ok_iff] at h
  obtain ⟨name, middle, hkey, v, last, hvalue, -, rfl⟩ := h
  have hshorter := length_lt_of_outcome hkey
  have hrest := length_lt_of_outcome hvalue
  omega

/-- An implied object goes on with each later line whose key stands in its column. -/
theorem outcome_impliedFields (size column : Nat) (ts : List Lexeme) :
    outcome (impliedFields size column ts) = (do
      let (e, rest) ← entry size column ts
      let later := rest.dropWhile isNewline
      if later.length < rest.length ∧ keyColumn? later = some column then
        let (others, rest) ← outcome (impliedFields size column later)
        pure (e :: others, rest)
      else pure ([e], rest)) := by
  rw [impliedFields]
  unfold entry
  cases hkey : key size ts with
  | error e => rfl
  | ok name =>
    simp only [outcome_ok, bind, Except.bind]
    cases hvalue : entryValue size column name.rest with
    | error e => rfl
    | ok first =>
      simp only [outcome_ok, pure, Except.pure, Parsed.andThen]
      by_cases hmore : (first.rest.dropWhile isNewline).length < first.rest.length ∧
          keyColumn? (first.rest.dropWhile isNewline) = some column
      · simp only [hmore, and_self, ↓reduceIte]
        cases impliedFields size column (first.rest.dropWhile isNewline) <;> rfl
      · simp only [hmore, ↓reduceIte]
        rfl

/-- How the entries of an object and the items of an array are read: behind line ends and commas, up
    to the token that closes them. One of them is read with `first`, and those behind it with
    `others`. -/
def members {α : Type} (size : Nat) (wanted : Wanted) (close : Token)
    (first : Lexeme → List Lexeme → Except Error (α × List Lexeme))
    (others : List Lexeme → Except Error (List α × List Lexeme)) (ts : List Lexeme) :
    Except Error (List α × List Lexeme) :=
  match ts.dropWhile isSeparator with
  | [] => .error (wantedAt wanted size [])
  | x :: rest =>
    if x.token = close then .ok ([], rest)
    else do
      let (a, rest) ← first x (x :: rest)
      let (later, rest) ← others rest
      pure (a :: later, rest)

/-- Between braces stand entries, each of them in a column of its own. -/
theorem outcome_bracedFields (size : Nat) (ts : List Lexeme) :
    outcome (bracedFields size ts) =
      members size .key .closeBrace (fun x => entry size x.place.column)
        (fun rest => outcome (bracedFields size rest)) ts := by
  rw [bracedFields, members]
  split
  · rename_i hlater
    simp only [hlater]
    rfl
  · rename_i x rest hlater
    simp only [hlater]
    split
    · rfl
    · unfold entry
      cases hkey : key size (x :: rest) with
      | error e => rfl
      | ok name =>
        simp only [outcome_ok, bind, Except.bind]
        cases hvalue : entryValue size x.place.column name.rest with
        | error e => rfl
        | ok first =>
          simp only [outcome_ok, pure, Except.pure, Parsed.andThen, Parsed.widen]
          cases bracedFields size first.rest <;> rfl

theorem outcome_arrayItems (size : Nat) (ts : List Lexeme) :
    outcome (arrayItems size ts) =
      members size .value .closeBracket (fun _ ts => outcome (item size ts))
        (fun rest => outcome (arrayItems size rest)) ts := by
  rw [arrayItems, members]
  split
  · rename_i hlater
    simp only [hlater]
    rfl
  · rename_i x rest hlater
    simp only [hlater]
    split
    · rfl
    · cases hitem : item size (x :: rest) with
      | error e => rfl
      | ok first =>
        simp only [outcome_ok, bind, Except.bind, pure, Except.pure, Parsed.widen]
        cases arrayItems size first.rest <;> rfl

/-- The first token decides what kind of value follows. -/
theorem outcome_value (size : Nat) (x : Lexeme) (rest : List Lexeme) :
    outcome (value size (x :: rest)) =
      if x.token = .openBrace then
        (outcome (bracedFields size rest)).map fun (fields, rest) =>
          (Document.ofFields fields, rest)
      else if x.token = .openBracket then
        (outcome (arrayItems size rest)).map fun (items, rest) => (Document.array items, rest)
      else outcome (scalar size (x :: rest)) := by
  rw [value]
  split
  · cases bracedFields size rest <;> rfl
  · split
    · cases arrayItems size rest <;> rfl
    · rfl

@[simp] theorem outcome_value_nil (size : Nat) :
    outcome (value size []) = .error (wantedAt .value size []) := by
  rw [value]
  rfl

/-- A document is an item with nothing but line ends around it. -/
theorem documentOfTokens_eq (size : Nat) (ts : List Lexeme) :
    documentOfTokens size ts = (do
      let (v, rest) ← outcome (item size (ts.dropWhile isNewline))
      match rest.dropWhile isNewline with
      | [] => pure v
      | x :: _ => .error ⟨.afterDocument x.token, x.place.offset⟩) := by
  rw [documentOfTokens]
  cases item size (ts.dropWhile isNewline) <;> rfl

end RuleGraph.Cson
