import RuleGraph.Proofs.Cson.Lookahead

namespace RuleGraph.Cson

/-- What is read as an entry in its own column starts with a key and a colon. -/
theorem startsEntry_of_entry {size : Nat} {x : Lexeme} {ts rest : List Lexeme}
    {e : String × Document} (hread : entry size x.place.column (x :: ts) = .ok (e, rest)) :
    StartsEntry x.place.column (x :: ts) := by
  obtain ⟨name, middle, hkey, -⟩ := bind_eq_ok_iff.1 hread
  obtain ⟨y, colon, heq, hname, hcolon⟩ := outcome_key_eq_ok_iff.1 hkey
  obtain ⟨rfl, rfl⟩ := List.cons.inj heq
  exact .intro hname hcolon

/-- An entry that was read is an entry of the grammar, given that its item is one. -/
theorem entry_sound {size column : Nat} {ts rest : List Lexeme} {e : String × Document}
    (hread : entry size column ts = .ok (e, rest)) (hcolumn : StartsEntry column ts)
    (hitem : ∀ later v, later.length < ts.length → outcome (item size later) = .ok (v, rest) →
      ∃ taken, later = taken ++ rest ∧ Item taken rest v) :
    ∃ taken, ts = taken ++ rest ∧ Entry column taken rest e := by
  simp only [entry, bind_eq_ok_iff, pure_eq_ok_iff] at hread
  obtain ⟨name, middle, hkey, v, last, hvalue, rfl, rfl⟩ := hread
  obtain ⟨x, colon, rfl, hname, hcolon⟩ := outcome_key_eq_ok_iff.1 hkey
  obtain rfl := hcolumn.unique (.intro hname hcolon)
  obtain ⟨breaks, hbreaks, hmiddle⟩ := exists_newlines_append middle
  have hlength := congrArg List.length hmiddle
  rw [List.length_append] at hlength
  rw [outcome_entryValue] at hvalue
  split at hvalue
  · cases hvalue
  · rename_i hdeep
    obtain ⟨taken, htaken, hderived⟩ := hitem _ v (by simp only [List.length_cons]; omega) hvalue
    refine ⟨x :: colon :: (breaks ++ taken), ?_, .intro hname hcolon hbreaks ?_ hderived⟩
    · rw [List.cons_append, List.cons_append, List.append_assoc, ← htaken, ← hmiddle]
    · intro hsome
      have hpos := List.length_pos_iff.2 hsome
      have hdeeper : isDeeper x.place.column (middle.dropWhile isNewline) = true :=
        eq_true_of_ne_false fun h => hdeep ⟨by omega, h⟩
      obtain ⟨y, others, heq, hlt⟩ := isDeeper_eq_true_iff.1 hdeeper
      have hshorter := length_lt_of_outcome hvalue
      rw [htaken] at heq hshorter
      cases taken with
      | nil => exact absurd hshorter (Nat.lt_irrefl _)
      | cons z taken =>
        obtain ⟨rfl, -⟩ := List.cons.inj heq
        exact ⟨z, taken, rfl, hlt⟩

mutual

/-- Whatever the parser reads, the grammar derives: each reader takes the tokens of a phrase of its
    category from the front and leaves the tokens that follow the phrase. -/
theorem item_sound {size : Nat} {ts rest : List Lexeme} {v : Document}
    (hread : outcome (item size ts) = .ok (v, rest)) :
    ∃ taken, ts = taken ++ rest ∧ Item taken rest v := by
  rw [outcome_item] at hread
  cases hstart : keyColumn? ts with
  | none =>
    simp only [hstart] at hread
    obtain ⟨taken, rfl, hvalue⟩ := value_sound hread
    exact ⟨taken, rfl, .value (keyColumn?_eq_none_iff.1 hstart) hvalue⟩
  | some column =>
    simp only [hstart, map_eq_ok_iff, Prod.mk.injEq] at hread
    obtain ⟨fields, rest', hfields, rfl, rfl⟩ := hread
    have hstarts := keyColumn?_eq_some_iff.1 hstart
    obtain ⟨taken, rfl, himplied⟩ := impliedFields_sound hstarts hfields
    exact ⟨taken, rfl, .implied hstarts himplied⟩
termination_by (ts.length, 4)

/-- An implied object that is read ends where the grammar lets it end. -/
theorem impliedFields_sound {size column : Nat} {ts rest : List Lexeme}
    {fields : List (String × Document)} (hstart : StartsEntry column ts)
    (hread : outcome (impliedFields size column ts) = .ok (fields, rest)) :
    ∃ taken, ts = taken ++ rest ∧ Implied column taken rest fields := by
  rw [outcome_impliedFields] at hread
  obtain ⟨e, middle, hentry, hread⟩ := bind_eq_ok_iff.1 hread
  dsimp only at hread
  have hshorter := length_lt_of_entry hentry
  obtain ⟨first, hfirst, hderived⟩ := entry_sound hentry hstart fun later v hlater h => item_sound h
  obtain ⟨breaks, hbreaks, hmiddle⟩ := exists_newlines_append middle
  have hlength := congrArg List.length hmiddle
  rw [List.length_append] at hlength
  split at hread
  · rename_i hmore
    simp only [bind_eq_ok_iff, pure_eq_ok_iff] at hread
    obtain ⟨others, rest', hothers, rfl, rfl⟩ := hread
    obtain ⟨later, hlater, himplied⟩ :=
      impliedFields_sound (keyColumn?_eq_some_iff.1 hmore.2) hothers
    have hwhole : middle = breaks ++ later ++ rest' := by
      rw [List.append_assoc, ← hlater, ← hmiddle]
    have hsome : breaks ≠ [] := by
      rintro rfl
      exact absurd hmore.1 (by rw [hlength]; simp)
    refine ⟨first ++ breaks ++ later, ?_, .more (hwhole ▸ hderived) hsome hbreaks himplied⟩
    rw [hfirst, hwhole]
    simp only [List.append_assoc]
  · rename_i hend
    obtain ⟨rfl, rfl⟩ := pure_eq_ok_iff.1 hread
    exact ⟨first, hfirst, .last hderived fun h => hend (continues_iff.1 h)⟩
termination_by (ts.length, 3)

theorem value_sound {size : Nat} {ts rest : List Lexeme} {v : Document}
    (hread : outcome (value size ts) = .ok (v, rest)) :
    ∃ taken, ts = taken ++ rest ∧ Value taken rest v := by
  cases ts with
  | nil => simp at hread
  | cons x later =>
    rw [outcome_value] at hread
    split at hread
    · rename_i hopen
      simp only [map_eq_ok_iff, Prod.mk.injEq] at hread
      obtain ⟨fields, rest', hfields, rfl, rfl⟩ := hread
      obtain ⟨taken, close, rfl, hclose, hderived⟩ := bracedFields_sound hfields
      exact ⟨x :: (taken ++ [close]), by simp, .object hopen hderived hclose⟩
    · split at hread
      · rename_i hopen
        simp only [map_eq_ok_iff, Prod.mk.injEq] at hread
        obtain ⟨items, rest', hitems, rfl, rfl⟩ := hread
        obtain ⟨taken, close, rfl, hclose, hderived⟩ := arrayItems_sound hitems
        exact ⟨x :: (taken ++ [close]), by simp, .array hopen hderived hclose⟩
      · obtain ⟨hscalar, rfl⟩ := outcome_scalar_eq_ok_iff.1 hread
        exact ⟨[x], rfl, .scalar hscalar⟩
termination_by (ts.length, 3)

/-- What is read behind an opening brace ends with a closing one. -/
theorem bracedFields_sound {size : Nat} {ts rest : List Lexeme}
    {fields : List (String × Document)}
    (hread : outcome (bracedFields size ts) = .ok (fields, rest)) :
    ∃ taken close, ts = taken ++ close :: rest ∧ close.token = .closeBrace ∧
      Fields taken (close :: rest) fields := by
  rw [outcome_bracedFields] at hread
  obtain ⟨separators, x, later, hseparators, hts, ⟨hclose, rfl, rfl⟩ | hmore⟩ :=
    exists_of_members hread
  · exact ⟨separators, x, hts, hclose, .nil hseparators⟩
  · obtain ⟨e, middle, others, hentry, hothers, rfl⟩ := hmore
    have hle : (x :: later).length ≤ ts.length := hts ▸ (List.sublist_append_right ..).length_le
    have hshorter := length_lt_of_entry hentry
    obtain ⟨first, hfirst, hderived⟩ := entry_sound hentry (startsEntry_of_entry hentry)
      fun later v hlater h => item_sound h
    obtain ⟨taken, close, rfl, hclose, hfields⟩ := bracedFields_sound hothers
    refine ⟨separators ++ first ++ taken, close, ?_, hclose, .cons hseparators hderived hfields⟩
    rw [hts, hfirst]
    simp only [List.append_assoc]
termination_by (ts.length, 2)

/-- What is read behind an opening bracket ends with a closing one. -/
theorem arrayItems_sound {size : Nat} {ts rest : List Lexeme} {items : List Document}
    (hread : outcome (arrayItems size ts) = .ok (items, rest)) :
    ∃ taken close, ts = taken ++ close :: rest ∧ close.token = .closeBracket ∧
      Items taken (close :: rest) items := by
  rw [outcome_arrayItems] at hread
  obtain ⟨separators, x, later, hseparators, hts, ⟨hclose, rfl, rfl⟩ | hmore⟩ :=
    exists_of_members hread
  · exact ⟨separators, x, hts, hclose, .nil hseparators⟩
  · obtain ⟨v, middle, others, hitem, hothers, rfl⟩ := hmore
    have hle : (x :: later).length ≤ ts.length := hts ▸ (List.sublist_append_right ..).length_le
    have hshorter := length_lt_of_outcome hitem
    obtain ⟨first, hfirst, hderived⟩ := item_sound hitem
    obtain ⟨taken, close, rfl, hclose, hitems⟩ := arrayItems_sound hothers
    refine ⟨separators ++ first ++ taken, close, ?_, hclose, .cons hseparators hderived hitems⟩
    rw [hts, hfirst]
    simp only [List.append_assoc]
termination_by (ts.length, 5)
decreasing_by
  · exact Prod.Lex.right' _ hle (by decide)
  · exact Prod.Lex.left _ _ (Nat.lt_of_lt_of_le hshorter hle)

end

/-- A document that was read is derived from all of its tokens. -/
theorem derives_of_documentOfTokens {size : Nat} {ts : List Lexeme} {v : Document}
    (hread : documentOfTokens size ts = .ok v) : Derives ts v := by
  rw [documentOfTokens_eq] at hread
  obtain ⟨w, rest, hitem, hread⟩ := bind_eq_ok_iff.1 hread
  obtain ⟨before, hbefore, hts⟩ := exists_newlines_append ts
  obtain ⟨after, hafter, hrest⟩ := exists_newlines_append rest
  obtain ⟨taken, htaken, hderived⟩ := item_sound hitem
  cases hlast : rest.dropWhile isNewline with
  | nil =>
    simp only [hlast, pure, Except.pure, Except.ok.injEq] at hread
    obtain rfl := hread
    rw [hlast, List.append_nil] at hrest
    obtain rfl := hrest
    rw [hts, htaken, ← List.append_assoc]
    exact .intro hbefore hderived hafter
  | cons x others => simp only [hlast, reduceCtorEq] at hread

end RuleGraph.Cson
