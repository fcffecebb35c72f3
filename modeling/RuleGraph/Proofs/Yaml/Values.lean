import Mathlib.Data.List.Forall2
import RuleGraph.Proofs.Yaml.Nodes
import RuleGraph.Yaml.Document

namespace RuleGraph.Yaml

/-- With room for some levels of collections, the node has the document, whatever is followed before
    it. -/
def HasDocument (room : Nat) (node : Node Nat) (d : Document) : Prop :=
  ∀ aliases followed, documentOf? aliases room followed node = some (d, followed)

/-- The node has the document, and there is no anchor in it. -/
def Denotes (room : Nat) (node : Node String) (d : Document) : Prop :=
  ∃ numbered, (∀ numbers, numberAnchors? numbers node = some (numbered, numbers)) ∧
    HasDocument room numbered d

/-- The key is the name, plain or in quotes, and the value has the document. -/
def DenotesField (room : Nat) (entry : Node String × Node String) (field : String × Document) :
    Prop :=
  (∃ plain, entry.1 = .scalar {} plain field.1) ∧ Denotes room entry.2 field.2

/-- Without anchors and aliases the count of them is handed on unchanged. -/
theorem threadList_eq {α β : Type} {f : Nat → α → Option (β × Nat)} {xs : List α} {ys : List β}
    (h : List.Forall₂ (fun x y => ∀ n, f n x = some (y, n)) xs ys) (n : Nat) :
    threadList f n xs = some (ys, n) := by
  induction h with
  | nil => rfl
  | cons hfirst _ ih => simp [threadList, hfirst, ih]

theorem denotes_scalar {plain : Bool} {text : String} {d : Document}
    (h : scalarValue? none plain text = some d) (room : Nat) :
    Denotes room (.scalar {} plain text) d := by
  refine ⟨.scalar {} plain text, fun numbers => ?_, fun aliases followed => ?_⟩
  · rw [numberAnchors?]
    rfl
  · rw [documentOf?]
    simp [Aliases.follow?, h]

/-- A sequence has its document if its items have and it is not nested too deep. -/
theorem denotes_sequence {room : Nat} {nodes : List (Node String)} {ds : List Document}
    (h : List.Forall₂ (Denotes room) nodes ds) :
    Denotes (room + 1) (.sequence {} nodes) (.array ds) := by
  have hitems : ∃ numbered, (∀ numbers, numberItems? numbers nodes = some (numbered, numbers)) ∧
      List.Forall₂ (HasDocument room) numbered ds := by
    induction h with
    | nil => exact ⟨[], fun _ => by rw [numberItems?], .nil⟩
    | cons hfirst _ ih =>
      obtain ⟨first, hnumber, hdocument⟩ := hfirst
      obtain ⟨rest, hnumbers, hdocuments⟩ := ih
      exact ⟨first :: rest, fun numbers => by simp [numberItems?, hnumber, hnumbers],
        .cons hdocument hdocuments⟩
  obtain ⟨numbered, hnumbers, hdocuments⟩ := hitems
  refine ⟨.sequence {} numbered, fun numbers => ?_, fun aliases followed => ?_⟩
  · simp [numberAnchors?, numberProperties, hnumbers]
  · rw [documentOf?]
    simp [Aliases.follow?, allowsTag, threadList_eq (hdocuments.imp fun _ _ hd => hd aliases)]

/-- A mapping has its document if its values have and it is not nested too deep. -/
theorem denotes_mapping {room : Nat} {entries : List (Node String × Node String)}
    {fields : List (String × Document)} (h : List.Forall₂ (DenotesField room) entries fields) :
    Denotes (room + 1) (.mapping {} entries) (.ofFields fields) := by
  have hentries : ∃ numbered,
      (∀ numbers, numberEntries? numbers entries = some (numbered, numbers)) ∧
      List.Forall₂ (fun (e : Node Nat × Node Nat) (f : String × Document) =>
        (∃ plain, e.1 = .scalar {} plain f.1) ∧ HasDocument room e.2 f.2) numbered fields := by
    induction h with
    | nil => exact ⟨[], fun _ => by rw [numberEntries?], .nil⟩
    | @cons entry field _ _ hfirst _ ih =>
      obtain ⟨key, value⟩ := entry
      obtain ⟨⟨plain, hkey⟩, first, hnumber, hdocument⟩ := hfirst
      obtain ⟨rest, hnumbers, hdocuments⟩ := ih
      obtain rfl := hkey
      refine ⟨(.scalar {} plain field.1, first) :: rest, fun numbers => ?_,
        .cons ⟨⟨plain, rfl⟩, hdocument⟩ hdocuments⟩
      simp [numberEntries?, numberAnchors?, numberProperties, hnumber, hnumbers]
  obtain ⟨numbered, hnumbers, hdocuments⟩ := hentries
  refine ⟨.mapping {} numbered, fun numbers => ?_, fun aliases followed => ?_⟩
  · simp [numberAnchors?, numberProperties, hnumbers]
  · rw [documentOf?]
    simp only [Aliases.follow?, allowsTag, if_true]
    rw [threadList_eq (hdocuments.imp ?_)]
    · rfl
    · rintro ⟨key, value⟩ field ⟨⟨plain, rfl⟩, hd⟩ n
      simp [fieldName?, Aliases.follow?, hd aliases n]

/-- The tokens are read as a node that has the document. -/
structure Makes (context : NodeContext) (room : Nat) (ts : List Token) (d : Document) : Prop where
  opens : ∃ t r, ts = t :: r ∧ opensNode t = true
  exists_node : ∃ node,
    (∀ follow, found? (node? coreNamespaces context (ts ++ follow)) = some (node, follow)) ∧
      Denotes room node d

/-- The tokens are read as the items of a sequence, by a reader that also takes its end. -/
def MakesItems (reader : (ts : List Token) → Option (Parsed (List (Node String)) ts)) (room : Nat)
    (ts : List Token) (ds : List Document) : Prop :=
  ∃ nodes, (∀ follow,
      found? (reader (ts ++ .flowSequenceEnd :: follow)) = some (nodes, follow)) ∧
    List.Forall₂ (Denotes room) nodes ds

/-- The tokens are read as the entries of a mapping, by a reader that also takes its end. -/
def MakesFields (last : Token)
    (reader : (ts : List Token) → Option (Parsed (List (Node String × Node String)) ts))
    (room : Nat) (ts : List Token) (fields : List (String × Document)) : Prop :=
  ∃ entries, (∀ follow, found? (reader (ts ++ last :: follow)) = some (entries, follow)) ∧
    List.Forall₂ (DenotesField room) entries fields

variable {context : NodeContext} {room : Nat}

/-- The token of a scalar makes its value. -/
theorem makes_scalar {plain : Bool} {text : String} {d : Document}
    (h : scalarValue? none plain text = some d) : Makes context room [.scalar plain text] d where
  opens := ⟨_, _, rfl, rfl⟩
  exists_node := ⟨.scalar {} plain text, fun _ => found?_node?_scalar plain text,
    denotes_scalar h room⟩

/-- The tokens of items between brackets make an array. -/
theorem makes_array {ts : List Token} {ds : List Document}
    (h : MakesItems (flowItems? coreNamespaces) room ts ds) :
    Makes context (room + 1) (.flowSequenceStart :: (ts ++ [.flowSequenceEnd])) (.array ds) where
  opens := ⟨_, _, rfl, rfl⟩
  exists_node := by
    obtain ⟨nodes, hread, hdenotes⟩ := h
    refine ⟨.sequence {} nodes, fun follow => ?_, denotes_sequence hdenotes⟩
    rw [List.cons_append, List.append_assoc, List.singleton_append, found?_node?_sequence, hread]
    rfl

/-- The tokens of fields between braces make an object. -/
theorem makes_braces {ts : List Token} {fields : List (String × Document)}
    (h : MakesFields .flowMappingEnd (flowFields? coreNamespaces) room ts fields) :
    Makes context (room + 1) (.flowMappingStart :: (ts ++ [.flowMappingEnd]))
      (.ofFields fields) where
  opens := ⟨_, _, rfl, rfl⟩
  exists_node := by
    obtain ⟨entries, hread, hdenotes⟩ := h
    refine ⟨.mapping {} entries, fun follow => ?_, denotes_mapping hdenotes⟩
    rw [List.cons_append, List.append_assoc, List.singleton_append, found?_node?_mapping, hread]
    rfl

/-- The tokens of the fields of a block make an object, where a block may stand. -/
theorem makes_block {ts : List Token} {fields : List (String × Document)}
    (hblock : context.block = true)
    (h : MakesFields .blockEnd (blockFields? coreNamespaces) room ts fields) :
    Makes context (room + 1) (.blockMappingStart :: (ts ++ [.blockEnd])) (.ofFields fields) where
  opens := ⟨_, _, rfl, rfl⟩
  exists_node := by
    obtain ⟨entries, hread, hdenotes⟩ := h
    refine ⟨.mapping {} entries, fun follow => ?_, denotes_mapping hdenotes⟩
    rw [List.cons_append, List.append_assoc, List.singleton_append, found?_node?_block hblock,
      hread]
    rfl

theorem makesItems_nil : MakesItems (flowItems? coreNamespaces) room [] [] :=
  ⟨[], fun _ => found?_flowItems?_end, .nil⟩

theorem makesItemsEnd_nil : MakesItems (flowItemsEnd? coreNamespaces) room [] [] :=
  ⟨[], fun _ => found?_flowItemsEnd?_end, .nil⟩

/-- A comma and more items behind an item. -/
theorem MakesItems.behind_comma {ts : List Token} {ds : List Document}
    (h : MakesItems (flowItems? coreNamespaces) room ts ds) :
    MakesItems (flowItemsEnd? coreNamespaces) room (.flowEntry :: ts) ds := by
  obtain ⟨nodes, hread, hdenotes⟩ := h
  exact ⟨nodes, fun follow => found?_flowItemsEnd?_entry.trans (hread follow), hdenotes⟩

/-- An item in front of others makes an array of all of them. -/
theorem Makes.cons_items {ts us : List Token} {d : Document} {ds : List Document}
    (hfirst : Makes .flow room ts d)
    (hrest : MakesItems (flowItemsEnd? coreNamespaces) room us ds) :
    MakesItems (flowItems? coreNamespaces) room (ts ++ us) (d :: ds) := by
  obtain ⟨⟨t, r, rfl, hopens⟩, node, hnode, hdenotes⟩ := hfirst
  obtain ⟨nodes, hnodes, hdenotes'⟩ := hrest
  refine ⟨node :: nodes, fun follow => ?_, .cons hdenotes hdenotes'⟩
  have hfound := hnode (us ++ .flowSequenceEnd :: follow)
  rw [List.append_assoc]
  rw [List.cons_append] at hfound ⊢
  rw [found?_flowItems?_node hopens, hfound, Option.bind_some, hnodes]
  rfl

theorem makesFields_nil : MakesFields .flowMappingEnd (flowFields? coreNamespaces) room [] [] :=
  ⟨[], fun _ => found?_flowFields?_end, .nil⟩

theorem makesFieldsEnd_nil :
    MakesFields .flowMappingEnd (flowFieldsEnd? coreNamespaces) room [] [] :=
  ⟨[], fun _ => found?_flowFieldsEnd?_end, .nil⟩

theorem makesBlock_nil : MakesFields .blockEnd (blockFields? coreNamespaces) room [] [] :=
  ⟨[], fun _ => found?_blockFields?_end, .nil⟩

/-- A comma and more fields behind a field in braces. -/
theorem MakesFields.behind_comma {ts : List Token} {fields : List (String × Document)}
    (h : MakesFields .flowMappingEnd (flowFields? coreNamespaces) room ts fields) :
    MakesFields .flowMappingEnd (flowFieldsEnd? coreNamespaces) room (.flowEntry :: ts) fields := by
  obtain ⟨nodes, hread, hdenotes⟩ := h
  exact ⟨nodes, fun follow => found?_flowFieldsEnd?_entry.trans (hread follow), hdenotes⟩

/-- A field in front of others, for a reader that reads one field and leaves the others to another
    reader. -/
theorem Makes.cons_fields {last : Token}
    {reader others : (ts : List Token) → Option (Parsed (List (Node String × Node String)) ts)}
    (hreader : ∀ {t ts} plain name, opensNode t = true →
      found? (reader (.key :: .scalar plain name :: .value :: t :: ts)) =
        (found? (node? coreNamespaces context (t :: ts))).bind fun x =>
          (found? (others x.2)).map fun y => ((.scalar {} plain name, x.1) :: y.1, y.2))
    {ts us : List Token} {d : Document} {fields : List (String × Document)}
    (hfirst : Makes context room ts d) (plain : Bool) (name : String)
    (hrest : MakesFields last others room us fields) :
    MakesFields last reader room (.key :: .scalar plain name :: .value :: ts ++ us)
      ((name, d) :: fields) := by
  obtain ⟨⟨t, r, rfl, hopens⟩, node, hnode, hdenotes⟩ := hfirst
  obtain ⟨entries, hentries, hdenotes'⟩ := hrest
  refine ⟨(.scalar {} plain name, node) :: entries, fun follow => ?_,
    .cons ⟨⟨plain, rfl⟩, hdenotes⟩ hdenotes'⟩
  have hfound := hnode (us ++ last :: follow)
  have hsplit : .key :: .scalar plain name :: .value :: t :: r ++ us ++ last :: follow =
      .key :: .scalar plain name :: .value :: t :: (r ++ (us ++ last :: follow)) := by
    simp
  rw [List.cons_append] at hfound
  rw [hsplit, hreader plain name hopens, hfound, Option.bind_some, hentries]
  rfl

end RuleGraph.Yaml
