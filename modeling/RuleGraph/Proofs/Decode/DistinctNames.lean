import RuleGraph.Decode
import RuleGraph.Proofs.Cson.Grammar.Soundness
import RuleGraph.Proofs.Cson.Number
import RuleGraph.Proofs.Grammar.Shape
import RuleGraph.Proofs.Json.Grammar
import RuleGraph.Proofs.Json.Number
import RuleGraph.Proofs.PropertyList.Leaves

namespace RuleGraph

namespace Yaml

/-- A plain scalar is a value without parts. -/
theorem isSingle_of_plainValue? {text : String} {d : Document} (h : plainValue? text = some d) :
    d.isSingle = true := by
  unfold plainValue? at h
  split at h
  · obtain rfl := Option.some.inj h
    rfl
  split at h
  · obtain rfl := Option.some.inj h
    rfl
  split at h
  · obtain rfl := Option.some.inj h
    rfl
  · cases h
  split at h
  · obtain rfl := Option.some.inj h
    rfl
  split at h
  · obtain rfl := Option.some.inj h
    exact Document.isSingle_ofFloat _
  · obtain rfl := Option.some.inj h
    rfl

theorem isSingle_of_taggedValue? {tag : List UInt8} {plain : Bool} {text : String} {d : Document}
    (h : taggedValue? tag plain text = some d) : d.isSingle = true := by
  unfold taggedValue? at h
  split at h
  · obtain ⟨b, -, rfl⟩ := Option.map_eq_some_iff.1 h
    rfl
  split at h
  · split at h
    · obtain rfl := Option.some.inj h
      rfl
    all_goals cases h
  split at h
  · obtain ⟨x, -, rfl⟩ := Option.map_eq_some_iff.1 h
    exact Document.isSingle_ofFloat x
  split at h
  · obtain ⟨-, heq⟩ := Option.ite_none_right_eq_some.1 h
    obtain rfl := Option.some.inj heq
    rfl
  split at h
  · cases h
  split at h
  · exact isSingle_of_plainValue? h
  · obtain rfl := Option.some.inj h
    rfl

/-- Whatever its tag, a scalar is a value without parts. -/
theorem isSingle_of_scalarValue? {tag : Option (List UInt8)} {plain : Bool} {text : String}
    {d : Document} (h : scalarValue? tag plain text = some d) : d.isSingle = true := by
  unfold scalarValue? at h
  split at h
  · exact isSingle_of_taggedValue? h
  split at h
  · exact isSingle_of_plainValue? h
  · obtain rfl := Option.some.inj h
    rfl

/-- What holds of every result holds of all the results. -/
theorem forall_of_threadList {α β : Type} {f : Nat → α → Option (β × Nat)} {p : β → Prop}
    (hf : ∀ {n x y m}, f n x = some (y, m) → p y) {xs : List α} {n m : Nat} {ys : List β}
    (h : threadList f n xs = some (ys, m)) : ∀ y ∈ ys, p y := by
  induction xs generalizing n m ys with
  | nil =>
    obtain ⟨rfl, -⟩ := Prod.mk.inj (Option.some.inj h)
    exact List.forall_mem_nil _
  | cons x xs ih =>
    rw [threadList] at h
    split at h
    · cases h
    · rename_i first n' hfirst
      obtain ⟨⟨others, last⟩, hothers, heq⟩ := Option.map_eq_some_iff.1 h
      obtain ⟨rfl, -⟩ := Prod.mk.inj heq
      exact List.forall_mem_cons.2 ⟨hf hfirst, ih hothers⟩

/-- The document of a node has distinct names, also where aliases are followed. -/
theorem distinctNames_of_documentOf? {aliases : Aliases} {room followed last : Nat} {node : Node Nat}
    {d : Document} (h : documentOf? aliases room followed node = some (d, last)) :
    d.DistinctNames := by
  rw [documentOf?] at h
  split at h
  · cases h
  · cases h
  · obtain ⟨value, hvalue, heq⟩ := Option.map_eq_some_iff.1 h
    obtain ⟨rfl, -⟩ := Prod.mk.inj heq
    exact Document.distinctNames_of_isSingle (isSingle_of_scalarValue? hvalue)
  · cases room with
    | zero => cases h
    | succ room =>
      obtain ⟨-, h⟩ := Option.ite_none_right_eq_some.1 h
      obtain ⟨⟨items, n⟩, hitems, heq⟩ := Option.map_eq_some_iff.1 h
      obtain ⟨rfl, -⟩ := Prod.mk.inj heq
      exact .array (forall_of_threadList (fun hitem => distinctNames_of_documentOf? hitem) hitems)
  · cases room with
    | zero => cases h
    | succ room =>
      obtain ⟨-, h⟩ := Option.ite_none_right_eq_some.1 h
      obtain ⟨⟨fields, n⟩, hfields, heq⟩ := Option.map_eq_some_iff.1 h
      obtain ⟨rfl, -⟩ := Prod.mk.inj heq
      refine Document.distinctNames_ofFields (forall_of_threadList ?_ hfields)
      intro n entry field m hfield
      split at hfield
      · cases hfield
      · obtain ⟨⟨value, k⟩, hvalue, heq⟩ := Option.map_eq_some_iff.1 hfield
        obtain ⟨rfl, -⟩ := Prod.mk.inj heq
        exact distinctNames_of_documentOf? hvalue
termination_by room

/-- In a document of YAML no object has a name twice. -/
theorem distinctNames_of_parse? {source : String} {d : Document} (h : parse? source = some d) :
    d.DistinctNames := by
  unfold parse? at h
  split at h
  · cases h
  · obtain rfl := Option.some.inj h
    exact .null
  · split at h
    · cases h
    · obtain ⟨⟨d, n⟩, hd, rfl⟩ := Option.map_eq_some_iff.1 h
      exact distinctNames_of_documentOf? hd

end Yaml

namespace Json

theorem isSingle_of_number? {s : List Char} {p : Parsed Document s} (h : number? s = some p) :
    p.value.isSingle = true := by
  have hzero := (exists_of_number? h).1
  revert hzero
  cases p.value <;> simp [Document.withoutNumbers, Document.isSingle]

theorem Scalar.isSingle {s rest : List Char} {d : Document} (h : Scalar s d rest) :
    d.isSingle = true := by
  cases h with
  | string h => rfl
  | keyword h rest => cases h <;> rfl
  | number h => exact isSingle_of_number? h

mutual

/-- A value of JSON has distinct names in all its objects, since later fields of a name replace
    earlier ones. The recursion follows the derivation. -/
theorem Value.distinctNames {s rest : List Char} {d : Document} :
    Value s d rest → d.DistinctNames
  | .scalar _ h => Document.distinctNames_of_isSingle h.isSingle
  | .emptyObject _ _ => Document.distinctNames_ofFields (List.forall_mem_nil _)
  | .object _ hfields => Document.distinctNames_ofFields hfields.distinctNames
  | .emptyArray _ _ => .array (List.forall_mem_nil _)
  | .array _ hitems => .array hitems.distinctNames

theorem Members.distinctNames {s rest : List Char} {fields : List (String × Document)} :
    Members s fields rest → ∀ f ∈ fields, f.2.DistinctNames
  | .last _ hvalue _ => List.forall_mem_singleton.2 hvalue.distinctNames
  | .more _ hvalue _ hothers =>
    List.forall_mem_cons.2 ⟨hvalue.distinctNames, hothers.distinctNames⟩

theorem Items.distinctNames {s rest : List Char} {items : List Document} :
    Items s items rest → ∀ d ∈ items, d.DistinctNames
  | .last hvalue _ => List.forall_mem_singleton.2 hvalue.distinctNames
  | .more hvalue _ hothers =>
    List.forall_mem_cons.2 ⟨hvalue.distinctNames, hothers.distinctNames⟩

end

end Json

namespace Cson

theorem isSingle_of_numberValue? {text : List Char} {d : Document}
    (h : numberValue? text = some d) : d.isSingle = true := by
  rw [numberValue?_eq, Option.or_eq_some_iff] at h
  obtain hwhole | ⟨-, hfloat⟩ := h
  · obtain ⟨n, -, rfl⟩ := Option.map_eq_some_iff.1 hwhole
    rfl
  · obtain ⟨-, hfloat⟩ := Option.ite_none_left_eq_some.1 hfloat
    obtain ⟨x, rfl, -⟩ := exists_float_of_floatValue? hfloat
    rfl

theorem Scalar.isSingle {t : Token} {d : Document} (h : Scalar t d) : d.isSingle = true := by
  cases h with
  | number h => exact isSingle_of_numberValue? h
  | _ => rfl

mutual

/-- An item of CSON has distinct names in all its objects. The recursion follows the derivation. -/
theorem Item.distinctNames {ts follow : List Lexeme} {d : Document} :
    Item ts follow d → d.DistinctNames
  | .implied _ hfields => Document.distinctNames_ofFields hfields.distinctNames
  | .value _ hvalue => hvalue.distinctNames

theorem Value.distinctNames {ts follow : List Lexeme} {d : Document} :
    Value ts follow d → d.DistinctNames
  | .scalar h => Document.distinctNames_of_isSingle h.isSingle
  | .object _ hfields _ => Document.distinctNames_ofFields hfields.distinctNames
  | .array _ hitems _ => .array hitems.distinctNames

theorem Entry.distinctNames {column : Nat} {ts follow : List Lexeme} {e : String × Document} :
    Entry column ts follow e → e.2.DistinctNames
  | .intro _ _ _ _ hitem => hitem.distinctNames

theorem Implied.distinctNames {column : Nat} {ts follow : List Lexeme}
    {fields : List (String × Document)} :
    Implied column ts follow fields → ∀ f ∈ fields, f.2.DistinctNames
  | .last hentry _ => List.forall_mem_singleton.2 hentry.distinctNames
  | .more hentry _ _ hothers =>
    List.forall_mem_cons.2 ⟨hentry.distinctNames, hothers.distinctNames⟩

theorem Fields.distinctNames {ts follow : List Lexeme} {fields : List (String × Document)} :
    Fields ts follow fields → ∀ f ∈ fields, f.2.DistinctNames
  | .nil _ => List.forall_mem_nil _
  | .cons _ hentry hothers =>
    List.forall_mem_cons.2 ⟨hentry.distinctNames, hothers.distinctNames⟩

theorem Items.distinctNames {ts follow : List Lexeme} {items : List Document} :
    Items ts follow items → ∀ d ∈ items, d.DistinctNames
  | .nil _ => List.forall_mem_nil _
  | .cons _ hitem hothers =>
    List.forall_mem_cons.2 ⟨hitem.distinctNames, hothers.distinctNames⟩

end

/-- In a document of CSON no object has a name twice. -/
theorem distinctNames_of_parse {source : String} {d : Document} (h : parse source = .ok d) :
    d.DistinctNames := by
  unfold parse at h
  split at h
  · cases h
  · obtain ⟨-, hitem, -⟩ := derives_of_documentOfTokens h
    exact hitem.distinctNames

end Cson

/-- A document that is not refused was found. -/
theorem Format.eq_some_of_orUnreadable {x : Option Document} {d : Document}
    (h : orUnreadable x = .ok d) : x = some d := by
  cases x with
  | none => cases h
  | some value => exact congrArg some (Except.ok.inj h)

/-- A document that is read from a text comes from the reader of the text. -/
theorem Format.exists_of_readText {input : ByteArray} {reader : String → Except Refusal Document}
    {d : Document} (h : readText input reader = .ok d) : ∃ text, reader text = .ok d := by
  rw [readText] at h
  cases htext : String.fromUTF8? input with
  | none =>
    rw [htext] at h
    cases h
  | some text =>
    rw [htext] at h
    exact ⟨text, h⟩

/-- Whatever the format, a document that is read has no object with two fields of one name. -/
theorem Format.distinctNames_of_read {format : Format} {input : ByteArray} {d : Document}
    (h : format.read input = .ok d) : d.DistinctNames := by
  cases format with
  | yaml =>
    obtain ⟨text, h⟩ := exists_of_readText h
    exact Yaml.distinctNames_of_parse? (eq_some_of_orUnreadable h)
  | cson =>
    obtain ⟨text, h⟩ := exists_of_readText h
    cases hparse : Cson.parse text with
    | error e =>
      rw [hparse] at h
      cases h
    | ok value =>
      rw [hparse] at h
      obtain rfl := Except.ok.inj h
      exact Cson.distinctNames_of_parse hparse
  | json =>
    obtain ⟨text, h⟩ := exists_of_readText h
    obtain ⟨rest, hvalue, -⟩ := Json.value_of_parse? (eq_some_of_orUnreadable h)
    exact hvalue.distinctNames
  | propertyList => exact PropertyList.distinctNames_of_parse? (eq_some_of_orUnreadable h)

/-- The object that is found in an input has distinct names. -/
theorem distinctNames_of_recognize {input : ByteArray} {formats : List Format} {format : Format}
    {fields : List (String × Document)} (h : (recognize input formats).2 = some (format, fields)) :
    (Document.object fields).DistinctNames := by
  induction formats with
  | nil => cases h
  | cons first formats ih =>
    rw [recognize] at h
    split at h
    · rename_i found hread
      obtain ⟨-, rfl⟩ := Prod.mk.inj (Option.some.inj h)
      exact first.distinctNames_of_read hread
    · exact ih h
    · exact ih h

/-- An input is decoded to a grammar exactly if the first object that is found in it writes the
    grammar. -/
theorem decode_eq_ok_iff {input : ByteArray} {grammar : Grammar} :
    decode input = .ok grammar ↔
      ∃ format fields, (recognize input Format.all).2 = some (format, fields) ∧
        WritesGrammar fields grammar := by
  rw [decode]
  cases hfound : (recognize input Format.all).2 with
  | none => simp
  | some found =>
    obtain ⟨format, fields⟩ := found
    have hshape : (shapeGrammar fields).mapError (fun e => DecodeError.malformed format e.message) =
        .ok grammar ↔ shapeGrammar fields = .ok grammar := by
      cases shapeGrammar fields <;> simp [Except.mapError]
    simp only [hshape, shapeGrammar_eq_ok_iff_writes (distinctNames_of_recognize hfound)]
    constructor
    · exact fun hwrites => ⟨format, fields, rfl, hwrites⟩
    · rintro ⟨_, _, ⟨⟩, hwrites⟩
      exact hwrites

end RuleGraph
