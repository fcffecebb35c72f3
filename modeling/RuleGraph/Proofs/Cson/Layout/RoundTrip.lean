import RuleGraph.Proofs.Cson.Layout.Nodes

namespace RuleGraph.Cson

/-- Documents without fractional numbers, with whole numbers within 64 bits, and with distinct names
    in each object. -/
inductive Plain : Document → Prop where
  | null : Plain .null
  | bool (value : Bool) : Plain (.bool value)
  | int {n : Int} (h : fitsSigned n = true) : Plain (.int n)
  | string (text : String) : Plain (.string text)
  | array {items : List Document} (h : ∀ d ∈ items, Plain d) : Plain (.array items)
  | object {fields : List (String × Document)} (hnames : (entryNames fields).Nodup)
      (h : ∀ f ∈ fields, Plain f.2) : Plain (.object fields)

/-- However a document is laid out, it is read back. -/
theorem Plain.readable {d : Document} (h : Plain d) : Readable d := by
  induction h with
  | null =>
    intro layout setting place _
    rw [valueText]
    exact readsAs_of_item (lexes_word rfl rfl rfl place) fun _ hfollow =>
      item_of_scalar (.null (by decide)) hfollow
  | bool value =>
    intro layout setting place _
    cases value with
    | true =>
      rw [valueText]
      exact readsAs_of_item (lexes_word rfl rfl rfl place) fun _ hfollow =>
        item_of_scalar (.yes (by decide)) hfollow
    | false =>
      rw [valueText]
      exact readsAs_of_item (lexes_word rfl rfl rfl place) fun _ hfollow =>
        item_of_scalar (.no (by decide)) hfollow
  | int hn =>
    intro layout setting place _
    rw [valueText]
    refine readsAs_of_item (lexes_intText _ place) fun _ hfollow =>
      item_of_scalar (.number ?_) hfollow
    rw [String.toList_ofList]
    exact numberValue?_intText hn
  | string text =>
    intro layout setting place _
    rw [valueText]
    exact readsAs_of_item (lexes_quoted _ _ text place) fun _ hfollow =>
      item_of_scalar (.string text) hfollow
  | array _ ih => exact readable_array ih
  | object hnames _ ih => exact readable_object hnames ih

/-- Line ends in front of a document and behind it are read as separators. -/
theorem exists_closed_lineEnds (n : Nat) (place : Place) :
    ∃ ts, Closed place (List.replicate n '\n') ts ∧ Newlines ts := by
  induction n generalizing place with
  | zero => exact ⟨[], closed_nil place, by simp [Newlines]⟩
  | succ n ih =>
    obtain ⟨ts, hts, hnewlines⟩ := ih (place.advance ['\n'])
    refine ⟨⟨.newline, place⟩ :: ts, (closed_punctuation rfl place).append hts, ?_⟩
    intro x hx
    obtain rfl | hx := List.mem_cons.1 hx
    · rfl
    · exact hnewlines x hx

/-- A document that is printed in some layout is read as that very document, with the entries of
    each object in the same order. -/
theorem parse_documentText {d : Document} (h : Plain d) (layout : Layout) (lineEnds : Nat) :
    parse (documentText layout lineEnds d) = .ok d := by
  let start := Place.advance {} (spaces layout.style.before)
  have hstart : start.column = layout.style.before := by
    rw [Place.column_advance_spaces]
    exact Nat.zero_add _
  obtain ⟨ts, hts, hitem⟩ := (h.readable layout .document start fun _ => hstart).exists_item
    (by simp)
  let behind := (start.advance (valueText layout .document d)).advance (spaces layout.style.after)
  obtain ⟨ends, hends, hnewlines⟩ := exists_closed_lineEnds lineEnds behind
  have hboundary : Boundary (spaces layout.style.after ++ List.replicate lineEnds '\n') := by
    refine (boundary_spaces _).append ?_
    cases lineEnds with
    | zero => exact .nil
    | succ n => exact .cons _ (by decide)
  have hafter := (closed_spaces _ layout.style.after).append_lexes hends.lexes
  have htext := (closed_spaces {} layout.style.before).append_lexes (hts.append hboundary hafter)
  have htokens : tokens (documentText layout lineEnds d).toList = .ok (ts ++ ends) := by
    rw [documentText, String.toList_ofList, tokens, List.append_assoc, List.append_assoc,
      htext.tokensFrom_eq]
    rfl
  have hadmits : Setting.document.Admits ends := by
    refine ⟨?_, hnewlines.not_continues⟩
    rw [← List.append_nil ends]
    exact .append hnewlines.separators.ne_colon (by simp [NoColon])
  have hderives : Derives ([] ++ ts ++ ends) d :=
    .intro (by simp [Newlines]) (hitem ends hadmits) hnewlines
  rw [parse, htokens]
  exact hderives.read _

/-- An implied object with an array in a block, beside an object in braces. -/
def mixed : Document :=
  .object
    [("it's", .object
      [("x", .int (-5)), ("y", .array [.object [("k", .null)], .string "a\nb"])]),
      ("z", .object [("on", .bool true), ("of", .array [])])]

/-- All three forms, under each other and next to each other, with both kinds of quotes and a bare
    key. -/
def mixedLayout : Layout
  | [] => { form := .implied, before := 1 }
  | [0] => { form := .implied, indent := 1 }
  | [0, 1] => { form := .block, afterColon := 1, closing := 3 }
  | [0, 1, 0] => { before := 5, comma := true }
  | [0, 1, 1] => { before := 5, after := 1, quote := .double }
  | [1] => { form := .block, afterColon := 2, indent := 4, bare := true }
  | _ => { afterColon := 1 }

theorem parse_documentText_mixed :
    documentText mixedLayout 1 mixed =
        " 'it\\'s':\n   'x': -5\n   'y': [\n     \x7b'k': null\x7d,\n     \"a\\nb\" \n   ]\n" ++
        " z:  \x7b\n    'on': true\n    'of': []\n\x7d\n" ∧
      Plain mixed ∧ parse (documentText mixedLayout 1 mixed) = .ok mixed := by
  have harray : Plain (.array [.object [("k", .null)], .string "a\nb"]) := by
    refine .array (List.forall_mem_cons.2 ⟨.object (by decide) ?_, ?_⟩)
    · exact List.forall_mem_cons.2 ⟨.null, List.forall_mem_nil _⟩
    · exact List.forall_mem_cons.2 ⟨.string _, List.forall_mem_nil _⟩
  have hplain : Plain mixed := by
    refine .object (by decide) (List.forall_mem_cons.2 ⟨.object (by decide) ?_,
      List.forall_mem_cons.2 ⟨.object (by decide) ?_, List.forall_mem_nil _⟩⟩)
    · exact List.forall_mem_cons.2 ⟨.int (by decide),
        List.forall_mem_cons.2 ⟨harray, List.forall_mem_nil _⟩⟩
    · exact List.forall_mem_cons.2 ⟨.bool true,
        List.forall_mem_cons.2 ⟨.array (List.forall_mem_nil _), List.forall_mem_nil _⟩⟩
  exact ⟨by decide +kernel, hplain, parse_documentText hplain mixedLayout 1⟩

end RuleGraph.Cson
