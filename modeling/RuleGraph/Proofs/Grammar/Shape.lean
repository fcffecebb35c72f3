import RuleGraph.Proofs.Grammar.Rules

namespace RuleGraph

/-- A grammar document: a list of rule documents, and texts and named rule documents where they are
    there and have a value. -/
structure IsGrammar (fields : List (String × Document)) : Prop where
  texts : ∀ name ∈ ["scopeName", "name"], ∀ value, fields.lookup name = some value → IsText value
  patterns : ∃ items, fields.lookup "patterns" = some (.array items) ∧ ∀ item ∈ items, IsRule item
  repository : ∀ value, fields.lookup "repository" = some value →
    value = .null ∨ ∃ rules, value = .object rules ∧ ∀ f ∈ rules, IsRule f.2

/-- The named rules that the fields of an object write, in order. -/
inductive WritesNamed : List (String × Document) → List (String × Rule) → Prop where
  | nil : WritesNamed [] []
  | cons {name : String} {value : Document} {fields : List (String × Document)} {rule : Rule}
      {rules : List (String × Rule)} (head : Writes value rule) (tail : WritesNamed fields rules) :
      WritesNamed ((name, value) :: fields) ((name, rule) :: rules)

/-- The repository at the place of a field: none where there is no field or no value. -/
inductive RepositoryAt : Option Document → Option Repository → Prop where
  | absent : RepositoryAt none none
  | null : RepositoryAt (some .null) none
  | object {fields : List (String × Document)} {repository : Repository}
      (h : WritesNamed fields repository.rules) :
      RepositoryAt (some (.object fields)) (some repository)

/-- The grammar that the fields of a document write. -/
@[mk_iff]
structure WritesGrammar (fields : List (String × Document)) (grammar : Grammar) : Prop where
  scopeName : TextAt (fields.lookup "scopeName") grammar.scopeName
  name : TextAt (fields.lookup "name") grammar.name
  patterns : ∃ items, fields.lookup "patterns" = some (.array items) ∧
    WritesAll items grammar.patterns
  repository : RepositoryAt (fields.lookup "repository") grammar.repository

/-- The same grammar but for unknown fields and the order of the fields, in it and in its rules. The
    named rules keep their order. -/
inductive SameGrammar : List (String × Document) → List (String × Document) → Prop where
  | refl (fields : List (String × Document)) : SameGrammar fields fields
  | trans {fields fields' fields'' : List (String × Document)} (h : SameGrammar fields fields')
      (h' : SameGrammar fields' fields'') : SameGrammar fields fields''
  | fields {fields fields' : List (String × Document)}
      (h : SameKnown ["scopeName", "name", "patterns", "repository"] fields fields') :
      SameGrammar fields fields'
  | patterns {before after : List (String × Document)} {items items' : List Document}
      (h : SameRules items items') :
      SameGrammar (before ++ ("patterns", .array items) :: after)
        (before ++ ("patterns", .array items') :: after)
  | repository {before after rules rules' : List (String × Document)} {name : String}
      {value value' : Document} (h : SameRule value value') :
      SameGrammar (before ++ ("repository", .object (rules ++ (name, value) :: rules')) :: after)
        (before ++ ("repository", .object (rules ++ (name, value') :: rules')) :: after)

/-- Reads one named rule. -/
def Repository.setRule (repository : Repository) (name : String) (value : Document) :
    Except ShapeError Repository :=
  (shapeRule value).map (repository.set name)

theorem shapeRepository_eq_readFields (repository : Repository)
    (fields : List (String × Document)) :
    shapeRepository repository fields = readFields Repository.setRule repository fields := by
  refine eq_readFields (fun known => ?_) (fun known name value fields => ?_) repository fields
  · rw [shapeRepository]
  · rw [shapeRepository, Repository.setRule]
    cases shapeRule value <;> rfl

/-- Named rules are read one after the other, and the first that is no rule stops the reading. -/
theorem shapeRepository_cons_eq_ok_iff {first last : Repository} {name : String} {value : Document}
    {fields : List (String × Document)} :
    shapeRepository first ((name, value) :: fields) = .ok last ↔
      ∃ rule, shapeRule value = .ok rule ∧
        shapeRepository (first.set name rule) fields = .ok last := by
  simp only [shapeRepository_eq_readFields, readFields_cons_eq_ok_iff, Repository.setRule,
    except_map_eq_ok_iff]
  simp

/-- Rules have the names of their fields. -/
theorem WritesNamed.entryNames_eq {fields : List (String × Document)} {rules : List (String × Rule)}
    (h : WritesNamed fields rules) : entryNames rules = entryNames fields := by
  induction h with
  | nil => rfl
  | cons _ _ ih => exact congrArg _ ih

theorem Repository.ext_rules {first last : Repository} (h : first.rules = last.rules) :
    first = last := by
  cases first
  cases last
  cases h
  rfl

/-- Rules with new names are put behind the ones that are there. -/
theorem shapeRepository_eq_ok_iff {first last : Repository} {fields : List (String × Document)}
    (hnodup : (entryNames first.rules ++ entryNames fields).Nodup)
    (h : ∀ f ∈ fields, ∀ rule, shapeRule f.2 = .ok rule ↔ Writes f.2 rule) :
    shapeRepository first fields = .ok last ↔
      ∃ rules, WritesNamed fields rules ∧ last.rules = first.rules ++ rules := by
  induction fields generalizing first with
  | nil =>
    rw [shapeRepository, Except.ok.injEq]
    constructor
    · rintro rfl
      exact ⟨[], .nil, (List.append_nil _).symm⟩
    · rintro ⟨_, ⟨⟩, hrules⟩
      rw [List.append_nil] at hrules
      exact (Repository.ext_rules hrules).symm
  | cons field fields ih =>
    obtain ⟨name, value⟩ := field
    obtain ⟨hvalue, hfields⟩ := List.forall_mem_cons.1 h
    have hnew : name ∉ entryNames first.rules := fun hmem =>
      (List.nodup_append.1 hnodup).2.2 name hmem name List.mem_cons_self rfl
    have hset : ∀ rule, (first.set name rule).rules = first.rules ++ [(name, rule)] :=
      setEntry_of_not_mem hnew
    have hrest : ∀ rule, shapeRepository (first.set name rule) fields = .ok last ↔
        ∃ rules, WritesNamed fields rules ∧ last.rules = first.rules ++ (name, rule) :: rules := by
      intro rule
      rw [ih _ hfields, hset]
      · simp only [List.append_assoc, List.singleton_append]
      · rw [hset, entryNames_append, List.append_assoc]
        exact hnodup
    simp only [shapeRepository_cons_eq_ok_iff, hvalue, hrest]
    constructor
    · rintro ⟨rule, head, rules, tail, hrules⟩
      exact ⟨_, .cons head tail, hrules⟩
    · rintro ⟨_, _ | ⟨head, tail⟩, hrules⟩
      exact ⟨_, head, _, tail, hrules⟩

/-- The top-level rules of a grammar. -/
def shapeTopRules : Document → Except ShapeError (Option (List Rule))
  | .array items => (shapeRules items).map some
  | found => .error (.wrongKind found .sequence)

/-- The named rules of a grammar. -/
def shapeNamedRules : Document → Except ShapeError (Option Repository)
  | .null => .ok none
  | .object fields => (shapeRepository .empty fields).map some
  | found => .error (.wrongKind found .mapping)

/-- Each field of `last` is what the field of its name says, or the one of `first` if there is no
    such field. -/
@[mk_iff]
structure Draft.Reads (first : Draft) (fields : List (String × Document)) (last : Draft) : Prop where
  scopeName : fieldValue? shapeText first.scopeName "scopeName" fields = some last.scopeName
  name : fieldValue? shapeText first.name "name" fields = some last.name
  patterns : fieldValue? shapeTopRules first.patterns "patterns" fields = some last.patterns
  repository : fieldValue? shapeNamedRules first.repository "repository" fields = some last.repository

namespace Draft

theorem reads_nil_iff {first last : Draft} : first.Reads [] last ↔ first = last := by
  obtain ⟨scopeName, name, patterns, repository⟩ := first
  obtain ⟨scopeName', name', patterns', repository'⟩ := last
  simp only [reads_iff, fieldValue?_nil, Option.some.injEq, mk.injEq]

theorem reads_cons_iff {first last : Draft} {name : String} {value : Document}
    {fields : List (String × Document)} (hnew : name ∉ entryNames fields) :
    first.Reads ((name, value) :: fields) last ↔
      ∃ next, first.Reads [(name, value)] next ∧ next.Reads fields last := by
  simp only [reads_iff, fieldValue?_cons_eq_some_iff hnew]
  constructor
  · rintro ⟨⟨scopeName, hscopeName⟩, ⟨name, hname⟩, ⟨patterns, hpatterns⟩, repository, hrepository⟩
    exact ⟨⟨scopeName, name, patterns, repository⟩,
      ⟨hscopeName.1, hname.1, hpatterns.1, hrepository.1⟩,
      ⟨hscopeName.2, hname.2, hpatterns.2, hrepository.2⟩⟩
  · rintro ⟨next, hfield, hfields⟩
    exact ⟨⟨_, hfield.1, hfields.1⟩, ⟨_, hfield.2.1, hfields.2.1⟩,
      ⟨_, hfield.2.2.1, hfields.2.2.1⟩, ⟨_, hfield.2.2.2, hfields.2.2.2⟩⟩

/-- Four names are known, each with a field of its own; all other fields are skipped. -/
theorem setField_eq (draft : Draft) (name : String) (value : Document) :
    draft.setField name value =
      if name = "scopeName" then (shapeText value).map fun t => { draft with scopeName := t }
      else if name = "name" then (shapeText value).map fun t => { draft with name := t }
      else if name = "patterns" then
        (shapeTopRules value).map fun rules => { draft with patterns := rules }
      else if name = "repository" then
        (shapeNamedRules value).map fun rules => { draft with repository := rules }
      else .ok draft := by
  unfold setField
  split_ifs <;> try rfl
  · cases value with
    | array items => cases hrules : shapeRules items <;> simp [shapeTopRules, hrules, Except.map]
    | _ => rfl
  · cases value with
    | object fields =>
      cases hrules : shapeRepository .empty fields <;> simp [shapeNamedRules, hrules, Except.map]
    | _ => rfl

theorem setField_eq_ok_iff {first last : Draft} {name : String} {value : Document} :
    first.setField name value = .ok last ↔ first.Reads [(name, value)] last := by
  obtain ⟨scopeName, title, patterns, repository⟩ := last
  simp only [reads_iff, fieldValue?_cons, fieldValue?_nil, setField_eq]
  by_cases hname : name ∈ ["scopeName", "name", "patterns", "repository"]
  · simp only [List.mem_cons, List.not_mem_nil, or_false] at hname
    obtain rfl | rfl | rfl | rfl := hname <;>
      simp [except_map_eq_ok_iff, toOption_eq_some_iff, and_left_comm, and_comm, and_assoc]
  · simp only [List.mem_cons, List.not_mem_nil, or_false, not_or] at hname
    obtain ⟨scopeName', title', patterns', repository'⟩ := first
    simp only [hname, @eq_comm String _ name, if_false, Except.ok.injEq, Option.some.injEq,
      mk.injEq]

theorem setFields_eq_readFields (draft : Draft) (fields : List (String × Document)) :
    draft.setFields fields = readFields setField draft fields := by
  refine eq_readFields (fun known => ?_) (fun known name value fields => ?_) draft fields
  · rw [setFields]
  · rw [setFields]
    cases known.setField name value <;> rfl

theorem setFields_eq_ok_iff {first last : Draft} {fields : List (String × Document)}
    (hnodup : (entryNames fields).Nodup) :
    first.setFields fields = .ok last ↔ first.Reads fields last := by
  rw [setFields_eq_readFields]
  exact readFields_eq_ok_iff (fun _ _ => reads_nil_iff) (fun _ _ _ _ _ => reads_cons_iff)
    (fun _ _ _ _ => setField_eq_ok_iff) hnodup

end Draft

/-- The draft that is complete with the grammar. -/
def Grammar.draft (grammar : Grammar) : Draft :=
  ⟨grammar.scopeName, grammar.name, some grammar.patterns, grammar.repository⟩

/-- A grammar is a draft that has a list of top-level rules. -/
theorem shapeGrammar_eq_ok_iff {fields : List (String × Document)} {grammar : Grammar} :
    shapeGrammar fields = .ok grammar ↔ Draft.setFields {} fields = .ok grammar.draft := by
  rw [shapeGrammar, Grammar.draft]
  cases Draft.setFields {} fields with
  | error e => simp
  | ok draft =>
    obtain ⟨scopeName, name, patterns, repository⟩ := draft
    obtain ⟨scopeName', name', patterns', repository'⟩ := grammar
    cases patterns <;> simp

section

variable {fields : List (String × Document)}

/-- The top-level rules are a list, and each of its items is a rule. -/
theorem shapeTopRules_eq_ok_iff {value : Document} (h : value.DistinctNames) {rules : List Rule} :
    shapeTopRules value = .ok (some rules) ↔ ∃ items, value = .array items ∧ WritesAll items rules := by
  cases h with
  | array h =>
    simp only [shapeTopRules, except_map_eq_ok_iff, Option.some.injEq, exists_eq_right,
      Document.array.injEq, exists_eq_left',
      shapeRules_eq_ok_iff fun item hitem => shapeRule_eq_ok_iff (h item hitem)]
  | _ => simp [shapeTopRules]

theorem repositoryAt_none_iff {repository : Option Repository} :
    RepositoryAt none repository ↔ none = repository := by
  constructor
  · rintro ⟨⟩
    rfl
  · rintro rfl
    exact .absent

/-- The named rules are the fields of an object, or there are none. -/
theorem shapeNamedRules_eq_ok_iff {value : Document} (h : value.DistinctNames)
    {repository : Option Repository} :
    shapeNamedRules value = .ok repository ↔ RepositoryAt (some value) repository := by
  cases h with
  | null =>
    constructor
    · rintro ⟨⟩
      exact .null
    · rintro ⟨⟩
      rfl
  | object hnodup h =>
    have hrules := fun last => @shapeRepository_eq_ok_iff .empty last _ hnodup fun f hf =>
      shapeRule_eq_ok_iff (h f hf)
    simp only [shapeNamedRules, except_map_eq_ok_iff, hrules]
    constructor
    · rintro ⟨read, ⟨rules, hwrites, heq⟩, rfl⟩
      exact .object (heq ▸ hwrites)
    · rintro (_ | _ | hwrites)
      exact ⟨_, ⟨_, hwrites, rfl⟩, rfl⟩
  | _ =>
    constructor
    · rintro ⟨⟩
    · rintro ⟨⟩

/-- A document is read as the grammar that it writes, and as no other. -/
theorem shapeGrammar_eq_ok_iff_writes (h : (Document.object fields).DistinctNames)
    {grammar : Grammar} : shapeGrammar fields = .ok grammar ↔ WritesGrammar fields grammar := by
  obtain ⟨scopeName, name, patterns, repository⟩ := grammar
  have hvalue : ∀ name value, fields.lookup name = some value → value.DistinctNames :=
    fun _ _ hlookup => h.of_mem_parts (List.mem_map_of_mem (mem_of_lookup hlookup))
  have hpatterns : fieldValue? shapeTopRules none "patterns" fields = some (some patterns) ↔
      ∃ items, fields.lookup "patterns" = some (.array items) ∧ WritesAll items patterns := by
    unfold fieldValue?
    cases hlookup : fields.lookup "patterns" with
    | none => simp
    | some value =>
      simp only [toOption_eq_some_iff, shapeTopRules_eq_ok_iff (hvalue _ _ hlookup),
        Option.some.injEq]
  have hrepository : fieldValue? shapeNamedRules none "repository" fields = some repository ↔
      RepositoryAt (fields.lookup "repository") repository :=
    fieldValue?_eq_some_iff (fun _ => repositoryAt_none_iff) fun value hlookup _ =>
      shapeNamedRules_eq_ok_iff (hvalue _ _ hlookup)
  cases h with
  | object hnodup =>
    rw [shapeGrammar_eq_ok_iff, Draft.setFields_eq_ok_iff hnodup, Draft.reads_iff, writesGrammar_iff]
    simp only [Grammar.draft, fieldValue?_shapeText_iff, hpatterns, hrepository]

theorem exists_writesNamed_of_forall (h : ∀ f ∈ fields, ∃ rule, Writes f.2 rule) :
    ∃ rules, WritesNamed fields rules := by
  induction fields with
  | nil => exact ⟨[], .nil⟩
  | cons field fields ih =>
    obtain ⟨⟨rule, hrule⟩, hfields⟩ := List.forall_mem_cons.1 h
    obtain ⟨rules, hrules⟩ := ih hfields
    exact ⟨_, .cons hrule hrules⟩

theorem WritesNamed.isRule {rules : List (String × Rule)} (h : WritesNamed fields rules) :
    ∀ f ∈ fields, IsRule f.2 := by
  induction h with
  | nil => exact List.forall_mem_nil _
  | cons head _ ih => exact List.forall_mem_cons.2 ⟨head.isRule, ih⟩

/-- The place of the named rules is right if it holds an object of rules or nothing. -/
theorem exists_repositoryAt_iff {place : Option Document}
    (h : ∀ rules, place = some (.object rules) → (entryNames rules).Nodup) :
    (∃ repository, RepositoryAt place repository) ↔ ∀ value, place = some value →
      value = .null ∨ ∃ rules, value = .object rules ∧ ∀ f ∈ rules, IsRule f.2 := by
  constructor
  · rintro ⟨_, _ | _ | hwrites⟩ value hvalue
    · cases hvalue
    · cases hvalue
      exact .inl rfl
    · cases hvalue
      exact .inr ⟨_, rfl, hwrites.isRule⟩
  · intro hvalue
    cases place with
    | none => exact ⟨none, .absent⟩
    | some value =>
      obtain rfl | ⟨fields, rfl, hrules⟩ := hvalue value rfl
      · exact ⟨none, .null⟩
      · obtain ⟨rules, hwrites⟩ := exists_writesNamed_of_forall fun f hf => (hrules f hf).exists_writes
        exact ⟨some ⟨rules, hwrites.entryNames_eq ▸ h fields rfl⟩, .object hwrites⟩

/-- The documents that write a grammar are the grammar documents. -/
theorem exists_writesGrammar_iff (h : (Document.object fields).DistinctNames) :
    (∃ grammar, WritesGrammar fields grammar) ↔ IsGrammar fields := by
  have hrepository := @exists_repositoryAt_iff (fields.lookup "repository") fun rules hrules => by
    cases h.of_mem_parts (List.mem_map_of_mem (mem_of_lookup hrules)) with
    | object hnodup => exact hnodup
  constructor
  · rintro ⟨grammar, hscopeName, hname, ⟨items, hitems, hpatterns⟩, hrules⟩
    refine ⟨fun name hmem => ?_, ⟨items, hitems, hpatterns.isRule⟩, hrepository.1 ⟨_, hrules⟩⟩
    simp only [List.mem_cons, List.not_mem_nil, or_false] at hmem
    obtain rfl | rfl := hmem
    · exact exists_textAt_iff.1 ⟨_, hscopeName⟩
    · exact exists_textAt_iff.1 ⟨_, hname⟩
  · rintro ⟨htexts, ⟨items, hitems, hpatterns⟩, hrules⟩
    obtain ⟨scopeName, hscopeName⟩ := exists_textAt_iff.2 (htexts "scopeName" (by simp))
    obtain ⟨name, hname⟩ := exists_textAt_iff.2 (htexts "name" (by simp))
    obtain ⟨patterns, hwrites⟩ := exists_writesAll_of_forall fun item hitem =>
      (hpatterns item hitem).exists_writes
    obtain ⟨repository, hrepository⟩ := hrepository.2 hrules
    exact ⟨⟨scopeName, name, patterns, repository⟩, hscopeName, hname, ⟨items, hitems, hwrites⟩,
      hrepository⟩

end

theorem Draft.reads_congr {first last : Draft} {fields fields' : List (String × Document)}
    (h : SameKnown ["scopeName", "name", "patterns", "repository"] fields fields') :
    first.Reads fields last ↔ first.Reads fields' last := by
  simp only [reads_iff, fieldValue?, h.lookup_eq (show "scopeName" ∈ _ by simp),
    h.lookup_eq (show "name" ∈ _ by simp), h.lookup_eq (show "patterns" ∈ _ by simp),
    h.lookup_eq (show "repository" ∈ _ by simp)]

theorem shapeRepository_replaced {name : String} {value value' : Document}
    (h : SameRule value value') {first last : Repository}
    (before after : List (String × Document)) :
    shapeRepository first (before ++ (name, value) :: after) = .ok last ↔
      shapeRepository first (before ++ (name, value') :: after) = .ok last := by
  rw [shapeRepository_eq_readFields, shapeRepository_eq_readFields]
  refine readFields_replaced (fun _ _ => ?_) before after
  simp only [Repository.setRule, except_map_eq_ok_iff, h.shapeRule_eq_ok_iff]

/-- Edits that leave a grammar the same do not change what is read. -/
theorem SameGrammar.shapeGrammar_eq_ok_iff {fields fields' : List (String × Document)}
    (h : SameGrammar fields fields') (grammar : Grammar) :
    shapeGrammar fields = .ok grammar ↔ shapeGrammar fields' = .ok grammar := by
  induction h with
  | refl fields => exact Iff.rfl
  | trans _ _ ih ih' => exact ih.trans ih'
  | fields h =>
    simp only [RuleGraph.shapeGrammar_eq_ok_iff, Draft.setFields_eq_ok_iff h.nodup,
      Draft.setFields_eq_ok_iff h.nodup', Draft.reads_congr h]
  | patterns h =>
    simp only [RuleGraph.shapeGrammar_eq_ok_iff, Draft.setFields_eq_readFields]
    refine readFields_replaced (fun first last => ?_) _ _
    simp [Draft.setField_eq, shapeTopRules, except_map_eq_ok_iff, h.shapeRules_eq_ok_iff]
  | repository h =>
    simp only [RuleGraph.shapeGrammar_eq_ok_iff, Draft.setFields_eq_readFields]
    refine readFields_replaced (fun first last => ?_) _ _
    simp [Draft.setField_eq, shapeNamedRules, except_map_eq_ok_iff, shapeRepository_replaced h]

/-- A document is read as a grammar if and only if it is a grammar document, the grammar is the one
    that it writes, and what is not part of that may be edited freely. -/
theorem shapeGrammar_accepts {fields : List (String × Document)}
    (h : (Document.object fields).DistinctNames) :
    ((∃ grammar, shapeGrammar fields = .ok grammar) ↔ IsGrammar fields) ∧
      (∀ grammar, shapeGrammar fields = .ok grammar ↔ WritesGrammar fields grammar) ∧
      ∀ fields', SameGrammar fields fields' →
        ∀ grammar, shapeGrammar fields' = .ok grammar ↔ shapeGrammar fields = .ok grammar := by
  refine ⟨?_, fun _ => shapeGrammar_eq_ok_iff_writes h, fun fields' hsame grammar => ?_⟩
  · simp only [shapeGrammar_eq_ok_iff_writes h, exists_writesGrammar_iff h]
  · exact (hsame.shapeGrammar_eq_ok_iff grammar).symm

/-- A grammar with an unknown field, a rule that is a list and a rule below another one. -/
def nestedFields : List (String × Document) :=
  [("fileTypes", .int 1),
    ("patterns", .array [.object [("patterns", .array [.array [.string "#word"]])]]),
    ("repository", .object [("word", .object [("match", .string "w")])])]

theorem shapeGrammar_accepts_nestedFields :
    (Document.object nestedFields).DistinctNames ∧ IsGrammar nestedFields ∧
      WritesGrammar nestedFields
        ⟨none, none, [.container [.including "#word"]], some ⟨[("word", .matching "w")], by decide⟩⟩ ∧
      ∀ grammar, shapeGrammar (nestedFields.drop 1).reverse = .ok grammar ↔
        shapeGrammar nestedFields = .ok grammar := by
  have hnames : (Document.object nestedFields).DistinctNames := by
    simp [nestedFields, Document.distinctNames_object_iff, Document.distinctNames_array_iff,
      entryNames, Document.DistinctNames.int, Document.DistinctNames.string]
  have hread : shapeGrammar nestedFields = .ok
      ⟨none, none, [.container [.including "#word"]], some ⟨[("word", .matching "w")], by decide⟩⟩ := by
    rfl
  have hsame : SameGrammar nestedFields (nestedFields.drop 1).reverse :=
    .fields ⟨by decide, by decide, .swap _ _ []⟩
  obtain ⟨haccept, hwrites, hedit⟩ := shapeGrammar_accepts hnames
  exact ⟨hnames, haccept.1 ⟨_, hread⟩, (hwrites _).1 hread, hedit _ hsame⟩

end RuleGraph
