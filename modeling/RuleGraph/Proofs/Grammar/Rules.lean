import Mathlib.Tactic.MkIffOfInductiveProp
import Mathlib.Tactic.SplitIfs
import RuleGraph.Grammar.Shape
import RuleGraph.Proofs.Document.Fields

namespace RuleGraph

/-- A document that may stand for a text: one without a value, or a text. -/
inductive IsText : Document → Prop where
  | null : IsText .null
  | string (text : String) : IsText (.string text)

/-- The text at the place of a field: none where there is no field or no value. -/
inductive TextAt : Option Document → Option String → Prop where
  | absent : TextAt none none
  | null : TextAt (some .null) none
  | string (text : String) : TextAt (some (.string text)) (some text)

/-- A rule document: its texts are texts and its rules a list of rule documents, where they are
    there and have a value. A list of at most five values gives the fields in their order. -/
inductive IsRule : Document → Prop where
  | object {fields : List (String × Document)}
      (texts : ∀ name ∈ ["include", "match", "begin", "end"], ∀ value,
        fields.lookup name = some value → IsText value)
      (list : ∀ value, fields.lookup "patterns" = some value →
        value = .null ∨ ∃ items, value = .array items)
      (rules : ∀ items, fields.lookup "patterns" = some (.array items) →
        ∀ item ∈ items, IsRule item) : IsRule (.object fields)
  | array {items : List Document} (hcount : items.length ≤ 5)
      (h : IsRule (.object (["include", "patterns", "match", "begin", "end"].zip items))) :
      IsRule (.array items)

mutual

/-- The rule that a document writes. -/
inductive Writes : Document → Rule → Prop where
  | object {fields : List (String × Document)} {rule : Rule}
      (inclusion : TextAt (fields.lookup "include") rule.inclusion)
      (patterns : RulesAt (fields.lookup "patterns") rule.patterns)
      (regex : TextAt (fields.lookup "match") rule.regex)
      (opening : TextAt (fields.lookup "begin") rule.opening)
      (closing : TextAt (fields.lookup "end") rule.closing) : Writes (.object fields) rule
  | array {items : List Document} {rule : Rule} (hcount : items.length ≤ 5)
      (h : Writes (.object (["include", "patterns", "match", "begin", "end"].zip items)) rule) :
      Writes (.array items) rule

/-- The rules at the place of a field: none where there is no field or no value. -/
inductive RulesAt : Option Document → Option (List Rule) → Prop where
  | absent : RulesAt none none
  | null : RulesAt (some .null) none
  | array {items : List Document} {rules : List Rule} (h : WritesAll items rules) :
      RulesAt (some (.array items)) (some rules)

/-- The rules that a list of documents writes, in order. -/
inductive WritesAll : List Document → List Rule → Prop where
  | nil : WritesAll [] []
  | cons {item : Document} {items : List Document} {rule : Rule} {rules : List Rule}
      (head : Writes item rule) (tail : WritesAll items rules) :
      WritesAll (item :: items) (rule :: rules)

end

mutual

/-- The same rule but for unknown fields and the order of the fields, in it and in the rules
    below. -/
inductive SameRule : Document → Document → Prop where
  | refl (d : Document) : SameRule d d
  | trans {d e f : Document} (h : SameRule d e) (h' : SameRule e f) : SameRule d f
  | fields {fields fields' : List (String × Document)}
      (h : SameKnown ["include", "patterns", "match", "begin", "end"] fields fields') :
      SameRule (.object fields) (.object fields')
  | nested {before after : List (String × Document)} {items items' : List Document}
      (h : SameRules items items') :
      SameRule (.object (before ++ ("patterns", .array items) :: after))
        (.object (before ++ ("patterns", .array items') :: after))
  | nestedArray {first : Document} {items items' rest : List Document} (h : SameRules items items') :
      SameRule (.array (first :: .array items :: rest)) (.array (first :: .array items' :: rest))

/-- Rules that are the same one by one. -/
inductive SameRules : List Document → List Document → Prop where
  | nil : SameRules [] []
  | cons {item item' : Document} {items items' : List Document} (head : SameRule item item')
      (tail : SameRules items items') : SameRules (item :: items) (item' :: items')

end

theorem textAt_none_iff {text : Option String} : TextAt none text ↔ none = text := by
  constructor
  · rintro ⟨⟩
    rfl
  · rintro rfl
    exact .absent

/-- A field for a text may hold a text or nothing. -/
theorem shapeText_eq_ok_iff {value : Document} {text : Option String} :
    shapeText value = .ok text ↔ TextAt (some value) text := by
  constructor
  · intro h
    cases value with
    | null =>
      cases h
      exact .null
    | string text =>
      cases h
      exact .string text
    | _ => cases h
  · intro h
    cases h <;> rfl

/-- A field for a text is read by its name, wherever it stands. -/
theorem fieldValue?_shapeText_iff {name : String} {fields : List (String × Document)}
    {text : Option String} :
    fieldValue? shapeText none name fields = some text ↔ TextAt (fields.lookup name) text :=
  fieldValue?_eq_some_iff (fun _ => textAt_none_iff) fun _ _ _ => shapeText_eq_ok_iff

/-- The list of rules of a rule. -/
def shapePatterns : Document → Except ShapeError (Option (List Rule))
  | .null => .ok none
  | .array items => (shapeRules items).map some
  | found => .error (.wrongKind found .sequence)

/-- Each field of `last` is what the field of its name says, or the one of `first` if there is no
    such field. -/
@[mk_iff]
structure Rule.Reads (first : Rule) (fields : List (String × Document)) (last : Rule) : Prop where
  inclusion : fieldValue? shapeText first.inclusion "include" fields = some last.inclusion
  patterns : fieldValue? shapePatterns first.patterns "patterns" fields = some last.patterns
  regex : fieldValue? shapeText first.regex "match" fields = some last.regex
  opening : fieldValue? shapeText first.opening "begin" fields = some last.opening
  closing : fieldValue? shapeText first.closing "end" fields = some last.closing

theorem Rule.reads_nil_iff {first last : Rule} : first.Reads [] last ↔ first = last := by
  obtain ⟨inclusion, patterns, regex, opening, closing⟩ := first
  obtain ⟨inclusion', patterns', regex', opening', closing'⟩ := last
  simp only [reads_iff, fieldValue?_nil, Option.some.injEq, mk.injEq]

/-- A field that is in front can be read first, since the others have other names. -/
theorem Rule.reads_cons_iff {first last : Rule} {name : String} {value : Document}
    {fields : List (String × Document)} (hnew : name ∉ entryNames fields) :
    first.Reads ((name, value) :: fields) last ↔
      ∃ next, first.Reads [(name, value)] next ∧ next.Reads fields last := by
  simp only [reads_iff, fieldValue?_cons_eq_some_iff hnew]
  constructor
  · rintro ⟨⟨inclusion, hinclusion⟩, ⟨patterns, hpatterns⟩, ⟨regex, hregex⟩, ⟨opening, hopening⟩,
      closing, hclosing⟩
    exact ⟨⟨inclusion, patterns, regex, opening, closing⟩,
      ⟨hinclusion.1, hpatterns.1, hregex.1, hopening.1, hclosing.1⟩,
      ⟨hinclusion.2, hpatterns.2, hregex.2, hopening.2, hclosing.2⟩⟩
  · rintro ⟨next, hfield, hfields⟩
    exact ⟨⟨_, hfield.1, hfields.1⟩, ⟨_, hfield.2.1, hfields.2.1⟩,
      ⟨_, hfield.2.2.1, hfields.2.2.1⟩, ⟨_, hfield.2.2.2.1, hfields.2.2.2.1⟩,
      ⟨_, hfield.2.2.2.2, hfields.2.2.2.2⟩⟩

/-- Five names are known, each with a field of its own; all other fields are skipped. -/
theorem shapeField_eq (rule : Rule) (name : String) (value : Document) :
    shapeField rule name value =
      if name = "include" then (shapeText value).map fun t => { rule with inclusion := t }
      else if name = "match" then (shapeText value).map fun t => { rule with regex := t }
      else if name = "begin" then (shapeText value).map fun t => { rule with opening := t }
      else if name = "end" then (shapeText value).map fun t => { rule with closing := t }
      else if name = "patterns" then
        (shapePatterns value).map fun rules => { rule with patterns := rules }
      else .ok rule := by
  unfold shapeField
  split_ifs <;> try rfl
  cases value with
  | array items => cases hrules : shapeRules items <;> simp [shapePatterns, hrules, Except.map]
  | _ => rfl

/-- Reading one field does what the fields of a rule say together, for a single field. -/
theorem shapeField_eq_ok_iff {first last : Rule} {name : String} {value : Document} :
    shapeField first name value = .ok last ↔ first.Reads [(name, value)] last := by
  obtain ⟨inclusion, patterns, regex, opening, closing⟩ := last
  simp only [Rule.reads_iff, fieldValue?_cons, fieldValue?_nil, shapeField_eq]
  -- a known field decides one part of the rule, an unknown one none
  by_cases hname : name ∈ ruleFieldNames
  · simp only [ruleFieldNames, List.mem_cons, List.not_mem_nil, or_false] at hname
    obtain rfl | rfl | rfl | rfl | rfl := hname <;>
      simp [except_map_eq_ok_iff, toOption_eq_some_iff, and_left_comm, and_comm, and_assoc]
  · simp only [ruleFieldNames, List.mem_cons, List.not_mem_nil, or_false, not_or] at hname
    obtain ⟨inclusion', patterns', regex', opening', closing'⟩ := first
    simp only [hname, @eq_comm String _ name, if_false, Except.ok.injEq, Option.some.injEq,
      Rule.mk.injEq]

theorem shapeFields_eq_readFields (rule : Rule) (fields : List (String × Document)) :
    shapeFields rule fields = readFields shapeField rule fields := by
  refine eq_readFields (fun known => ?_) (fun known name value fields => ?_) rule fields
  · rw [shapeFields]
  · rw [shapeFields]
    cases shapeField known name value <;> rfl

/-- Read one after the other, the fields make the rule that they make by their names. -/
theorem shapeFields_eq_ok_iff {first last : Rule} {fields : List (String × Document)}
    (hnodup : (entryNames fields).Nodup) :
    shapeFields first fields = .ok last ↔ first.Reads fields last := by
  rw [shapeFields_eq_readFields]
  exact readFields_eq_ok_iff (fun _ _ => Rule.reads_nil_iff)
    (fun _ _ _ _ _ => Rule.reads_cons_iff) (fun _ _ _ _ => shapeField_eq_ok_iff) hnodup

/-- A list of values is read as the fields of these names, and may not have more values than there
    are names. -/
theorem shapeValues_eq_ok_iff {count : Nat} {first last : Rule} {names : List String}
    {items : List Document} :
    shapeValues count first names items = .ok last ↔
      items.length ≤ names.length ∧ shapeFields first (names.zip items) = .ok last := by
  induction names generalizing first items with
  | nil => cases items <;> simp [shapeValues, shapeFields]
  | cons name names ih =>
    cases items with
    | nil => simp [shapeValues, shapeFields]
    | cons item items =>
      rw [shapeValues, List.zip_cons_cons, shapeFields, List.length_cons, List.length_cons,
        Nat.add_le_add_iff_right]
      cases shapeField first name item with
      | error e => simp
      | ok next => exact ih

theorem shapeRules_nil_eq_ok_iff {rules : List Rule} : shapeRules [] = .ok rules ↔ rules = [] := by
  rw [shapeRules, Except.ok.injEq, eq_comm]

theorem shapeRules_cons_eq_ok_iff {item : Document} {items : List Document} {rules : List Rule} :
    shapeRules (item :: items) = .ok rules ↔
      ∃ rule rest, shapeRule item = .ok rule ∧ shapeRules items = .ok rest ∧
        rule :: rest = rules := by
  rw [shapeRules]
  cases shapeRule item <;> simp [except_map_eq_ok_iff]

/-- A list is read as rules exactly if each of its items is. -/
theorem shapeRules_eq_ok_iff {items : List Document} {rules : List Rule}
    (h : ∀ item ∈ items, ∀ rule, shapeRule item = .ok rule ↔ Writes item rule) :
    shapeRules items = .ok rules ↔ WritesAll items rules := by
  induction items generalizing rules with
  | nil =>
    rw [shapeRules_nil_eq_ok_iff]
    constructor
    · rintro rfl
      exact .nil
    · rintro ⟨⟩
      rfl
  | cons item items ih =>
    obtain ⟨hitem, hitems⟩ := List.forall_mem_cons.1 h
    simp only [shapeRules_cons_eq_ok_iff, hitem, ih hitems]
    constructor
    · rintro ⟨rule, rest, head, tail, rfl⟩
      exact .cons head tail
    · rintro (_ | ⟨head, tail⟩)
      exact ⟨_, _, head, tail, rfl⟩

theorem rulesAt_none_iff {rules : Option (List Rule)} : RulesAt none rules ↔ none = rules := by
  constructor
  · rintro ⟨⟩
    rfl
  · rintro rfl
    exact .absent

/-- The rules inside a rule are a list of rules, or there are none. -/
theorem shapePatterns_eq_ok_iff {value : Document} {rules : Option (List Rule)}
    (h : ∀ items, value = .array items → ∀ item ∈ items, ∀ rule,
      shapeRule item = .ok rule ↔ Writes item rule) :
    shapePatterns value = .ok rules ↔ RulesAt (some value) rules := by
  cases value with
  | null =>
    constructor
    · rintro ⟨⟩
      exact .null
    · rintro ⟨⟩
      rfl
  | array items =>
    simp only [shapePatterns, except_map_eq_ok_iff, shapeRules_eq_ok_iff (h items rfl)]
    constructor
    · rintro ⟨read, hread, rfl⟩
      exact .array hread
    · rintro (_ | _ | hread)
      exact ⟨_, hread, rfl⟩
  | _ =>
    constructor
    · rintro ⟨⟩
    · rintro ⟨⟩

/-- A rule that starts empty is the one that its fields write. -/
theorem reads_empty_iff {fields : List (String × Document)} {rule : Rule}
    (h : ∀ items, Document.array items ∈ (Document.object fields).parts → ∀ item ∈ items, ∀ rule,
      shapeRule item = .ok rule ↔ Writes item rule) :
    Rule.Reads {} fields rule ↔ Writes (.object fields) rule := by
  have hpatterns : fieldValue? shapePatterns none "patterns" fields = some rule.patterns ↔
      RulesAt (fields.lookup "patterns") rule.patterns := by
    refine fieldValue?_eq_some_iff (fun _ => rulesAt_none_iff) fun value hvalue _ => ?_
    refine shapePatterns_eq_ok_iff fun items hitems => h items ?_
    exact List.mem_map.2 ⟨_, mem_of_lookup hvalue, hitems⟩
  rw [Rule.reads_iff, hpatterns]
  simp only [fieldValue?_shapeText_iff]
  constructor
  · rintro ⟨hinclusion, hpatterns, hregex, hopening, hclosing⟩
    exact .object hinclusion hpatterns hregex hopening hclosing
  · intro hwrites
    cases hwrites with
    | object inclusion patterns regex opening closing =>
      exact ⟨inclusion, patterns, regex, opening, closing⟩

theorem nodup_entryNames_zip {α : Type} {names : List String} (h : names.Nodup) (values : List α) :
    (entryNames (names.zip values)).Nodup := by
  induction names generalizing values with
  | nil => simp [entryNames]
  | cons name names ih =>
    obtain ⟨hnew, hrest⟩ := List.nodup_cons.1 h
    cases values with
    | nil => simp [entryNames]
    | cons value values =>
      refine List.nodup_cons.2 ⟨fun hmem => hnew ?_, ih hrest values⟩
      obtain ⟨entry, hentry, rfl⟩ := List.mem_map.1 hmem
      exact (List.of_mem_zip hentry).1

/-- A document is read as the rule that it writes, and as no other. -/
theorem shapeRule_eq_ok_iff {d : Document} (h : d.DistinctNames) (rule : Rule) :
    shapeRule d = .ok rule ↔ Writes d rule := by
  refine h.list_induction (P := fun d => ∀ rule, shapeRule d = .ok rule ↔ Writes d rule)
    (fun d hnames ih rule => ?_) rule
  cases d with
  | object fields =>
    cases hnames with
    | object hnodup =>
      rw [shapeRule, shapeFields_eq_ok_iff hnodup]
      exact reads_empty_iff ih
  | array items =>
    -- a list is read as the object that gives its values their names
    have hfields : shapeFields {} (ruleFieldNames.zip items) = .ok rule ↔
        Writes (.object (ruleFieldNames.zip items)) rule := by
      rw [shapeFields_eq_ok_iff (nodup_entryNames_zip (by decide) items)]
      refine reads_empty_iff fun nested hnested => ih nested ?_
      obtain ⟨field, hfield, heq⟩ := List.mem_map.1 hnested
      exact heq ▸ (List.of_mem_zip (a := field.1) (b := field.2) hfield).2
    rw [shapeRule, shapeValues_eq_ok_iff, hfields]
    constructor
    · rintro ⟨hcount, hwrites⟩
      exact .array hcount hwrites
    · intro hwrites
      cases hwrites with
      | array hcount hwrites => exact ⟨hcount, hwrites⟩
  | _ =>
    constructor
    · rintro ⟨⟩
    · rintro ⟨⟩

theorem isText_iff {value : Document} : IsText value ↔ ∃ text, TextAt (some value) text := by
  constructor
  · rintro (_ | ⟨text⟩)
    · exact ⟨none, .null⟩
    · exact ⟨some text, .string text⟩
  · rintro ⟨_, _ | _ | ⟨text⟩⟩
    · exact .null
    · exact .string text

/-- A field for a text is right if it holds a text or nothing, or is not there. -/
theorem exists_textAt_iff {place : Option Document} :
    (∃ text, TextAt place text) ↔ ∀ value, place = some value → IsText value := by
  cases place with
  | none => simp [textAt_none_iff]
  | some value => simp [isText_iff]

/-- Items that are rules each write a list of rules. -/
theorem exists_writesAll_of_forall {items : List Document}
    (h : ∀ item ∈ items, ∃ rule, Writes item rule) : ∃ rules, WritesAll items rules := by
  induction items with
  | nil => exact ⟨[], .nil⟩
  | cons item items ih =>
    obtain ⟨⟨rule, hrule⟩, hitems⟩ := List.forall_mem_cons.1 h
    obtain ⟨rules, hrules⟩ := ih hitems
    exact ⟨rule :: rules, .cons hrule hrules⟩

/-- What has the form of a rule writes one. -/
theorem IsRule.exists_writes {d : Document} (h : IsRule d) : ∃ rule, Writes d rule := by
  induction h with
  | @object fields texts list rules ih =>
    have htexts : ∀ name ∈ ["include", "match", "begin", "end"],
        ∃ text, TextAt (fields.lookup name) text := fun name hname =>
      exists_textAt_iff.2 (texts name hname)
    have hpatterns : ∃ rules, RulesAt (fields.lookup "patterns") rules := by
      cases hlookup : fields.lookup "patterns" with
      | none => exact ⟨none, .absent⟩
      | some value =>
        obtain rfl | ⟨items, rfl⟩ := list value hlookup
        · exact ⟨none, .null⟩
        · obtain ⟨rules, hrules⟩ := exists_writesAll_of_forall (ih items hlookup)
          exact ⟨some rules, .array hrules⟩
    obtain ⟨inclusion, hinclusion⟩ := htexts "include" (by simp)
    obtain ⟨regex, hregex⟩ := htexts "match" (by simp)
    obtain ⟨opening, hopening⟩ := htexts "begin" (by simp)
    obtain ⟨closing, hclosing⟩ := htexts "end" (by simp)
    obtain ⟨patterns, hpatterns⟩ := hpatterns
    exact ⟨⟨inclusion, patterns, regex, opening, closing⟩,
      .object hinclusion hpatterns hregex hopening hclosing⟩
  | array hcount _ ih =>
    obtain ⟨rule, hrule⟩ := ih
    exact ⟨rule, .array hcount hrule⟩

-- The recursion follows how a rule is written: its list of rules, and the rules in that one by one.
mutual

/-- What writes a rule has the form of one. The recursion follows how the rule is written. -/
theorem Writes.isRule {d : Document} {rule : Rule} : Writes d rule → IsRule d
  | .object inclusion patterns regex opening closing => by
    refine .object (fun name hname => ?_) patterns.list patterns.isRule
    simp only [List.mem_cons, List.not_mem_nil, or_false] at hname
    obtain rfl | rfl | rfl | rfl := hname
    · exact exists_textAt_iff.1 ⟨_, inclusion⟩
    · exact exists_textAt_iff.1 ⟨_, regex⟩
    · exact exists_textAt_iff.1 ⟨_, opening⟩
    · exact exists_textAt_iff.1 ⟨_, closing⟩
  | .array hcount h => .array hcount h.isRule

/-- In the place of a list of rules stands a list, or nothing. -/
theorem RulesAt.list {place : Option Document} {rules : Option (List Rule)} :
    RulesAt place rules → ∀ value, place = some value → value = .null ∨ ∃ items, value = .array items
  | .absent, _, h => by cases h
  | .null, _, h => .inl (Option.some.inj h).symm
  | .array _, _, h => .inr ⟨_, (Option.some.inj h).symm⟩

theorem RulesAt.isRule {place : Option Document} {rules : Option (List Rule)} :
    RulesAt place rules → ∀ items, place = some (.array items) → ∀ item ∈ items, IsRule item
  | .absent, _, h => by cases h
  | .null, _, h => by cases h
  | .array hitems, _, h => by
    have hrules := hitems.isRule
    cases h
    exact hrules

theorem WritesAll.isRule {items : List Document} {rules : List Rule} :
    WritesAll items rules → ∀ item ∈ items, IsRule item
  | .nil => List.forall_mem_nil _
  | .cons head tail => List.forall_mem_cons.2 ⟨head.isRule, tail.isRule⟩

end

/-- Unknown fields and the order of fields make no difference. -/
theorem Rule.reads_congr {first last : Rule} {fields fields' : List (String × Document)}
    (h : SameKnown ["include", "patterns", "match", "begin", "end"] fields fields') :
    first.Reads fields last ↔ first.Reads fields' last := by
  simp only [Rule.reads_iff, fieldValue?, h.lookup_eq (show "include" ∈ _ by simp),
    h.lookup_eq (show "patterns" ∈ _ by simp), h.lookup_eq (show "match" ∈ _ by simp),
    h.lookup_eq (show "begin" ∈ _ by simp), h.lookup_eq (show "end" ∈ _ by simp)]

/-- A list of rules can be replaced by one that is read alike. -/
theorem shapeField_patterns_congr {items items' : List Document}
    (h : ∀ rules, shapeRules items = .ok rules ↔ shapeRules items' = .ok rules)
    (first last : Rule) :
    shapeField first "patterns" (.array items) = .ok last ↔
      shapeField first "patterns" (.array items') = .ok last := by
  simp [shapeField_eq, shapePatterns, except_map_eq_ok_iff, h]

mutual

/-- Edits that leave a rule the same do not change what is read. -/
theorem SameRule.shapeRule_eq_ok_iff {d d' : Document} :
    SameRule d d' → ∀ rule, shapeRule d = .ok rule ↔ shapeRule d' = .ok rule
  | .refl _, _ => Iff.rfl
  | .trans h h', rule => (h.shapeRule_eq_ok_iff rule).trans (h'.shapeRule_eq_ok_iff rule)
  | .fields h, rule => by
    rw [shapeRule, shapeRule, shapeFields_eq_ok_iff h.nodup, shapeFields_eq_ok_iff h.nodup',
      Rule.reads_congr h]
  | .nested h, rule => by
    rw [shapeRule, shapeRule, shapeFields_eq_readFields, shapeFields_eq_readFields]
    exact readFields_replaced (shapeField_patterns_congr h.shapeRules_eq_ok_iff) _ _
  | @SameRule.nestedArray first _ _ _ h, rule => by
    have hfields := shapeField_patterns_congr h.shapeRules_eq_ok_iff
    simp only [shapeRule, shapeValues_eq_ok_iff, ruleFieldNames, List.zip_cons_cons,
      List.length_cons, shapeFields_eq_readFields]
    exact and_congr_right' (readFields_replaced hfields [("include", first)] _)

/-- Edits that change no single rule change no list of rules. -/
theorem SameRules.shapeRules_eq_ok_iff {items items' : List Document} :
    SameRules items items' → ∀ rules, shapeRules items = .ok rules ↔ shapeRules items' = .ok rules
  | .nil, _ => Iff.rfl
  | .cons head tail, rules => by
    simp only [shapeRules_cons_eq_ok_iff, head.shapeRule_eq_ok_iff, tail.shapeRules_eq_ok_iff]

end

end RuleGraph
