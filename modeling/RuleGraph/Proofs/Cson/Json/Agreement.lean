import Mathlib
import RuleGraph.Proofs.Cson.Json.Entries

namespace RuleGraph.Cson

open Document

mutual

/-- The two readers go through a text side by side: wherever JSON finds a value, the tokens of CSON
    are read as the same value, up to the worth of numbers and up to surrogate pairs, which CSON
    takes apart. The recursion follows the derivations of JSON. -/
theorem value_agree {source s rest : List Char} {d v : Document} {size : Nat} {place : Place}
    {ts left : List Lexeme} (hs : s <:+ source) (hends : Ends rest)
    (hts : tokensFrom place s = .ok ts)
    (hread : outcome (item size (ts.dropWhile isNewline)) = .ok (v, left)) :
    Json.Value s d rest → rest <:+ source ∧ (∃ place', tokensFrom place' rest = .ok left) ∧
      v.withoutNumbers.Like (Halves source) d.withoutNumbers
  | .scalar hskip hscalar => by
    obtain ⟨breaks, place', later, rfl, hbreaks, hlater⟩ := exists_tokensFrom_skipSpaces hts
    have ht := suffix_skipSpaces hs
    rw [hskip] at hlater ht
    obtain ⟨x, others, rfl, hkey, hnext, hvalue⟩ := exists_scalar_token hscalar ht hends hlater
    have hx : x.token ≠ .newline := by
      intro hx
      rw [hx] at hkey
      cases hkey
    rw [dropWhile_isNewline_of_ne hbreaks hx] at hread
    obtain ⟨hv, rfl⟩ := scalar_of_outcome_item hkey hnext hread
    exact hvalue v hv
  | .emptyObject hopen hclose => by
    obtain ⟨breaks, x, place', later, rfl, hbreaks, hx, hlater⟩ := exists_sign rfl hopen hts
    rw [dropWhile_isNewline_of_ne hbreaks (by simp [hx])] at hread
    obtain ⟨fields, hfields, rfl⟩ := exists_fields_of_outcome_item hx hread
    obtain ⟨breaks', y, last, more, rfl, hbreaks', hy, hmore⟩ := exists_sign rfl hclose hlater
    rw [outcome_bracedFields, members_close hbreaks'.separators hy (.inl rfl)] at hfields
    obtain ⟨rfl, rfl⟩ := Prod.mk.inj (Except.ok.inj hfields)
    exact ⟨suffix_of_skipSpaces (suffix_of_skipSpaces hs hopen) hclose, ⟨last, hmore⟩, .refl _⟩
  | .object hopen hmembers => by
    obtain ⟨breaks, x, place', later, rfl, hbreaks, hx, hlater⟩ := exists_sign rfl hopen hts
    rw [dropWhile_isNewline_of_ne hbreaks (by simp [hx])] at hread
    obtain ⟨fields, hfields, rfl⟩ := exists_fields_of_outcome_item hx hread
    obtain ⟨hrest, hleft, hlike⟩ :=
      members_agree (suffix_of_skipSpaces hs hopen) hlater hfields hmembers
    rw [withoutNumbers_ofFields, withoutNumbers_ofFields]
    exact ⟨hrest, hleft, .object hlike⟩
  | .emptyArray hopen hclose => by
    obtain ⟨breaks, x, place', later, rfl, hbreaks, hx, hlater⟩ := exists_sign rfl hopen hts
    rw [dropWhile_isNewline_of_ne hbreaks (by simp [hx])] at hread
    obtain ⟨items, hitems, rfl⟩ := exists_items_of_outcome_item hx hread
    obtain ⟨breaks', y, last, more, rfl, hbreaks', hy, hmore⟩ := exists_sign rfl hclose hlater
    rw [outcome_arrayItems, members_close hbreaks'.separators hy (.inr rfl)] at hitems
    obtain ⟨rfl, rfl⟩ := Prod.mk.inj (Except.ok.inj hitems)
    exact ⟨suffix_of_skipSpaces (suffix_of_skipSpaces hs hopen) hclose, ⟨last, hmore⟩, .refl _⟩
  | .array hopen hitems => by
    obtain ⟨breaks, x, place', later, rfl, hbreaks, hx, hlater⟩ := exists_sign rfl hopen hts
    rw [dropWhile_isNewline_of_ne hbreaks (by simp [hx])] at hread
    obtain ⟨items, hread', rfl⟩ := exists_items_of_outcome_item hx hread
    obtain ⟨hrest, hleft, hlike⟩ :=
      items_agree (suffix_of_skipSpaces hs hopen) hlater hread' hitems
    rw [withoutNumbers, withoutNumbers]
    exact ⟨hrest, hleft, .array hlike⟩

theorem members_agree {source s rest : List Char} {fields entries : List (String × Document)}
    {size : Nat} {place : Place} {ts left : List Lexeme} (hs : s <:+ source)
    (hts : tokensFrom place s = .ok ts)
    (hread : outcome (bracedFields size ts) = .ok (entries, left)) :
    Json.Members s fields rest → rest <:+ source ∧ (∃ place', tokensFrom place' rest = .ok left) ∧
      LikeFields (Halves source) (fieldsWithoutNumbers entries) (fieldsWithoutNumbers fields)
  | .last hname hvalue hclose => by
    obtain ⟨text, v, others, place', more, middle, rfl, hhalves, hr, hmore, hitem, hothers⟩ :=
      exists_entry hname hs hts hread
    obtain ⟨hmiddle, ⟨place'', hrest⟩, hlike⟩ :=
      value_agree hr (ends_of_skipSpaces hclose (by simp)) hmore hitem hvalue
    obtain ⟨breaks, y, last, later, rfl, hbreaks, hy, hlater⟩ := exists_sign rfl hclose hrest
    rw [outcome_bracedFields, members_close hbreaks.separators hy (.inl rfl)] at hothers
    obtain ⟨rfl, rfl⟩ := Prod.mk.inj (Except.ok.inj hothers)
    simp only [fieldsWithoutNumbers]
    exact ⟨suffix_of_skipSpaces hmiddle hclose, ⟨last, hlater⟩, .cons hhalves hlike .nil⟩
  | .more hname hvalue hcomma hmembers => by
    obtain ⟨text, v, others, place', more, middle, rfl, hhalves, hr, hmore, hitem, hothers⟩ :=
      exists_entry hname hs hts hread
    obtain ⟨hmiddle, ⟨place'', hrest⟩, hlike⟩ :=
      value_agree hr (ends_of_skipSpaces hcomma (by simp)) hmore hitem hvalue
    obtain ⟨breaks, y, last, later, rfl, hbreaks, hy, hlater⟩ := exists_sign rfl hcomma hrest
    rw [outcome_bracedFields, members_comma hbreaks hy, ← outcome_bracedFields] at hothers
    obtain ⟨hfinal, hleft, hfields⟩ :=
      members_agree (suffix_of_skipSpaces hmiddle hcomma) hlater hothers hmembers
    simp only [fieldsWithoutNumbers]
    exact ⟨hfinal, hleft, .cons hhalves hlike hfields⟩

theorem items_agree {source s rest : List Char} {items found : List Document}
    {size : Nat} {place : Place} {ts left : List Lexeme} (hs : s <:+ source)
    (hts : tokensFrom place s = .ok ts)
    (hread : outcome (arrayItems size ts) = .ok (found, left)) :
    Json.Items s items rest → rest <:+ source ∧ (∃ place', tokensFrom place' rest = .ok left) ∧
      LikeItems (Halves source) (itemsWithoutNumbers found) (itemsWithoutNumbers items)
  | .last hvalue hclose => by
    have hends := ends_of_skipSpaces hclose (by simp)
    obtain ⟨v, others, middle, rfl, hitem, hothers⟩ := exists_item hvalue hs hends hts hread
    obtain ⟨hmiddle, ⟨place', hrest⟩, hlike⟩ := value_agree hs hends hts hitem hvalue
    obtain ⟨breaks, y, last, later, rfl, hbreaks, hy, hlater⟩ := exists_sign rfl hclose hrest
    rw [outcome_arrayItems, members_close hbreaks.separators hy (.inr rfl)] at hothers
    obtain ⟨rfl, rfl⟩ := Prod.mk.inj (Except.ok.inj hothers)
    simp only [itemsWithoutNumbers]
    exact ⟨suffix_of_skipSpaces hmiddle hclose, ⟨last, hlater⟩, .cons hlike .nil⟩
  | .more hvalue hcomma hitems => by
    have hends := ends_of_skipSpaces hcomma (by simp)
    obtain ⟨v, others, middle, rfl, hitem, hothers⟩ := exists_item hvalue hs hends hts hread
    obtain ⟨hmiddle, ⟨place', hrest⟩, hlike⟩ := value_agree hs hends hts hitem hvalue
    obtain ⟨breaks, y, last, later, rfl, hbreaks, hy, hlater⟩ := exists_sign rfl hcomma hrest
    rw [outcome_arrayItems, members_comma hbreaks hy, ← outcome_arrayItems] at hothers
    obtain ⟨hfinal, hleft, hfound⟩ :=
      items_agree (suffix_of_skipSpaces hmiddle hcomma) hlater hothers hitems
    simp only [itemsWithoutNumbers]
    exact ⟨hfinal, hleft, .cons hlike hfound⟩

end

/-- A text that is both CSON and JSON is the same document in both, but for the worth of numbers,
    and but for texts in which surrogate pairs are written. Where the source writes none, there is
    no such text. -/
theorem parse_agree {source : String} {d d' : Document} (hcson : parse source = .ok d)
    (hjson : Json.parse? source = some d') :
    d.withoutNumbers.Like (Halves source.toList) d'.withoutNumbers ∧
      (¬WritesHalf source.toList → d.withoutNumbers = d'.withoutNumbers) := by
  obtain ⟨rest, hvalue, hrest⟩ := Json.value_of_parse? hjson
  have hends : Ends rest := by simp [Ends, hrest]
  unfold parse tokens at hcson
  cases hts : tokensFrom {} source.toList with
  | error e =>
    rw [hts] at hcson
    cases hcson
  | ok ts =>
    rw [hts] at hcson
    dsimp only at hcson
    rw [documentOfTokens_eq] at hcson
    obtain ⟨v, left, hitem, hleft⟩ := bind_eq_ok_iff.1 hcson
    obtain ⟨-, -, hlike⟩ := value_agree List.suffix_rfl hends hts hitem hvalue
    obtain rfl : v = d := by
      cases hlast : left.dropWhile isNewline with
      | nil => simpa [hlast, pure, Except.pure] using hleft
      | cons x others => simp only [hlast, reduceCtorEq] at hleft
    refine ⟨hlike, fun hplain => hlike.eq fun s t h => ?_⟩
    exact h.resolve_right fun hhalf => hplain hhalf.1

/-- A text with a surrogate pair in it. -/
def pairSource : String := "\x7b\"match\":\"\\ud83d\\ude00\"\x7d"

theorem json_parse?_pairSource :
    Json.parse? pairSource = some (.object [("match", .string "😀")]) := by
  have hname : found? (Json.string?
      (Json.skipSpaces "\"match\":\"\\ud83d\\ude00\"\x7d".toList)) =
        some ("match", ":\"\\ud83d\\ude00\"\x7d".toList) := by
    rw [Json.found?_string?]
    cbv
  have hvalue : found? (Json.value? 126 "\"\\ud83d\\ude00\"\x7d".toList) =
      some (.string "😀", ['\x7d']) := by
    rw [Json.found?_value?]
    cbv
  have hcolon : found? (Json.sign? ':' ":\"\\ud83d\\ude00\"\x7d".toList) =
      some ((), "\"\\ud83d\\ude00\"\x7d".toList) := Json.found?_sign?_eq_some_iff.2 rfl
  have hcomma : found? (Json.sign? ',' ['\x7d']) = none := by
    rw [Json.found?_sign?]
    rfl
  have hclose : found? (Json.sign? '\x7d' ['\x7d']) = some ((), []) :=
    Json.found?_sign?_eq_some_iff.2 rfl
  have hmembers := Json.found?_members?_last hname hcolon hvalue hcomma hclose
  have hsome : found? (Json.sign? '\x7d' "\"match\":\"\\ud83d\\ude00\"\x7d".toList) = none := by
    rw [Json.found?_sign?]
    rfl
  have hopen : Json.skipSpaces pairSource.toList =
      '\x7b' :: "\"match\":\"\\ud83d\\ude00\"\x7d".toList := rfl
  rw [Json.parse?_eq, Json.maxDepth, Json.found?_value?_object hopen hsome hmembers]
  rfl

/-- The halves of a surrogate pair are told apart as CSON and put together as JSON. -/
theorem not_forall_parse_agree :
    ¬∀ (source : String) (d d' : Document), parse source = .ok d → Json.parse? source = some d' →
      d'.isObject = true → d.withoutNumbers = d'.withoutNumbers := by
  intro h
  have hcson : parse pairSource = .ok (.object [("match", .string "\ufffd\ufffd")]) := by cbv
  have hsame := h _ _ _ hcson json_parse?_pairSource rfl
  simp [Document.withoutNumbers, Document.fieldsWithoutNumbers] at hsame

/-- The theorem above at a text where a surrogate pair tells the documents apart. -/
theorem parse_agree_pairSource :
    parse pairSource = .ok (.object [("match", .string "\ufffd\ufffd")]) ∧
      Json.parse? pairSource = some (.object [("match", .string "😀")]) ∧
      (Document.object [("match", .string "\ufffd\ufffd")]).withoutNumbers.Like
        (Halves pairSource.toList) (Document.object [("match", .string "😀")]).withoutNumbers := by
  have hcson : parse pairSource = .ok (.object [("match", .string "\ufffd\ufffd")]) := by cbv
  exact ⟨hcson, json_parse?_pairSource, (parse_agree hcson json_parse?_pairSource).1⟩

end RuleGraph.Cson
