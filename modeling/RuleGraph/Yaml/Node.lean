import RuleGraph.Parsed
import RuleGraph.Yaml.Tag

namespace RuleGraph.Yaml

/-- What may stand before a node. -/
structure Properties (α : Type) where
  /-- The name under which the node can be repeated. -/
  anchor : Option α := none
  /-- The tag, with its handle resolved. -/
  tag : Option (List UInt8) := none

/-- A node: a scalar, a sequence or a mapping with its anchor and tag, or an alias in place of one.
    The type is over the names of anchors, which are texts first and numbers later. -/
inductive Node (α : Type) where
  /-- The node with the given anchor once more. -/
  | alias (anchor : α)
  /-- A scalar; `plain` says that it has no quotes and is no block. -/
  | scalar (properties : Properties α) (plain : Bool) (text : String)
  /-- Items in order. -/
  | sequence (properties : Properties α) (items : List (Node α))
  /-- Keys and values in order. -/
  | mapping (properties : Properties α) (entries : List (Node α × Node α))

/-- The node where nothing is written. -/
def Node.absent {α : Type} : Node α :=
  .scalar {} true ""

/-- The namespaces of a document by their handles. -/
abbrev Namespaces := List (String × List UInt8)

/-- The namespaces of every document. A declaration of its own goes before them. -/
def coreNamespaces : Namespaces :=
  [("!", bytesOf "!"), ("!!", bytesOf "tag:yaml.org,2002:")]

/-- The whole name of a tag, if its handle is known. -/
def RawTag.resolve? (spaces : Namespaces) (tag : RawTag) : Option (List UInt8) :=
  if tag.handle = "" then some tag.suffix
  else (spaces.lookup tag.handle).map (· ++ tag.suffix)

/-- What comes before a node: an anchor and a tag in either order. -/
structure Prelude (ts : List Token) where
  /-- The properties found. -/
  properties : Properties String
  /-- The tokens behind them. -/
  rest : List Token
  /-- No token is added. -/
  length_le : rest.length ≤ ts.length

/-- Reads the properties of a node. -/
def prelude? (spaces : Namespaces) (ts : List Token) : Option (Prelude ts) :=
  match ts with
  | .anchor name :: .tag tag :: rest | .tag tag :: .anchor name :: rest =>
    (tag.resolve? spaces).map fun tag => ⟨⟨some name, some tag⟩, rest, by simp; omega⟩
  | .anchor name :: rest => some ⟨⟨some name, none⟩, rest, by simp⟩
  | .tag tag :: rest => (tag.resolve? spaces).map fun tag => ⟨⟨none, some tag⟩, rest, by simp⟩
  | ts => some ⟨{}, ts, Nat.le_refl _⟩

/-- Where a node stands. -/
structure NodeContext where
  /-- Whether it may be a block. -/
  block : Bool
  /-- Whether it may be a sequence that stands no deeper than its key. -/
  indentless : Bool

/-- Inside brackets and braces. -/
def NodeContext.flow : NodeContext := ⟨false, false⟩

/-- An item of a block sequence, or a whole document. -/
def NodeContext.item : NodeContext := ⟨true, false⟩

/-- A key or a value of a block mapping. -/
def NodeContext.field : NodeContext := ⟨true, true⟩

/-- The tokens that end the place of a key or value in a block. -/
def endsField : List Token → Bool
  | .key :: _ | .value :: _ | .blockEnd :: _ => true
  | _ => false

/-- The tokens that end the place of an item in a block sequence. -/
def endsItem : List Token → Bool
  | .blockEntry :: _ | .blockEnd :: _ => true
  | _ => false

/-- The tokens that end the place of an item in a block sequence that stands no deeper than its
    key. -/
def endsIndentless (ts : List Token) : Bool :=
  endsField ts || endsItem ts

/-- The tokens that end the place of a value in brackets. -/
def endsFlowItem : List Token → Bool
  | .flowEntry :: _ | .flowSequenceEnd :: _ => true
  | _ => false

/-- The tokens that end the place of a value in braces. -/
def endsFlowField : List Token → Bool
  | .flowEntry :: _ | .flowMappingEnd :: _ => true
  | _ => false

/-- Whether a value comes next. -/
def atValue : List Token → Bool
  | .value :: _ => true
  | _ => false

/-- A node that may be absent, and the rest of the tokens, which is not longer. -/
structure Slot (ts : List Token) where
  /-- The node. -/
  node : Node String
  /-- The tokens behind it. -/
  rest : List Token
  /-- No token is added. -/
  length_le : rest.length ≤ ts.length

namespace Slot

/-- Nothing is written. -/
def absent (ts : List Token) : Slot ts :=
  ⟨.absent, ts, Nat.le_refl _⟩

/-- A node that is written. -/
def present {ts : List Token} (p : Parsed (Node String) ts) : Slot ts :=
  ⟨p.value, p.rest, Nat.le_of_lt p.shorter⟩

/-- The same place, seen from before other tokens. -/
def widen {ts longer : List Token} (h : ts.length ≤ longer.length) (slot : Slot ts) :
    Slot longer :=
  ⟨slot.node, slot.rest, Nat.le_trans slot.length_le h⟩

end Slot

/-- A node of which only properties are written. At least one of them has to be there. -/
def bareNode? {ts : List Token} (before : Prelude ts) : Option (Parsed (Node String) ts) :=
  if h : before.rest.length < ts.length then
    some ⟨.scalar before.properties true "", before.rest, h⟩
  else none

mutual

/-- A node. -/
def node? (spaces : Namespaces) (context : NodeContext) (ts : List Token) :
    Option (Parsed (Node String) ts) :=
  match ts with
  | [] => none
  | .alias name :: rest => some ⟨.alias name, rest, by simp⟩
  | t :: tail =>
    match prelude? spaces (t :: tail) with
    | none => none
    | some before =>
      match h : before.rest with
      | .scalar plain text :: rest =>
        have hlt : rest.length < (t :: tail).length :=
          Nat.lt_of_lt_of_le (by simp) (h ▸ before.length_le)
        some ⟨.scalar before.properties plain text, rest, hlt⟩
      | .flowSequenceStart :: rest =>
        have hlt : rest.length < (t :: tail).length :=
          Nat.lt_of_lt_of_le (by simp) (h ▸ before.length_le)
        (flowItems? spaces rest).map fun p =>
          (p.map (Node.sequence before.properties)).widen (Nat.le_of_lt hlt)
      | .flowMappingStart :: rest =>
        have hlt : rest.length < (t :: tail).length :=
          Nat.lt_of_lt_of_le (by simp) (h ▸ before.length_le)
        (flowFields? spaces rest).map fun p =>
          (p.map (Node.mapping before.properties)).widen (Nat.le_of_lt hlt)
      | .blockSequenceStart :: rest =>
        have hlt : rest.length < (t :: tail).length :=
          Nat.lt_of_lt_of_le (by simp) (h ▸ before.length_le)
        if context.block then
          (blockItems? spaces rest).map fun p =>
            (p.map (Node.sequence before.properties)).widen (Nat.le_of_lt hlt)
        else bareNode? before
      | .blockMappingStart :: rest =>
        have hlt : rest.length < (t :: tail).length :=
          Nat.lt_of_lt_of_le (by simp) (h ▸ before.length_le)
        if context.block then
          (blockFields? spaces rest).map fun p =>
            (p.map (Node.mapping before.properties)).widen (Nat.le_of_lt hlt)
        else bareNode? before
      | .blockEntry :: rest =>
        have hle : (Token.blockEntry :: rest).length ≤ (t :: tail).length := h ▸ before.length_le
        if context.indentless then
          (indentlessItems? spaces (.blockEntry :: rest)).map fun p =>
            (p.map (Node.sequence before.properties)).widen hle
        else bareNode? before
      | _ => bareNode? before
termination_by (ts.length, 1)
decreasing_by
  all_goals first
    | exact Prod.Lex.left _ _ hlt
    | (rcases Nat.lt_or_eq_of_le hle with hlt | heq
       · exact Prod.Lex.left _ _ hlt
       · rw [heq]
         exact Prod.Lex.right _ (by decide))

/-- A node, unless the tokens that come next end its place. -/
def slot? (spaces : Namespaces) (context : NodeContext) (ends : List Token → Bool)
    (ts : List Token) : Option (Slot ts) :=
  if ends ts then some (.absent ts) else (node? spaces context ts).map Slot.present
termination_by (ts.length, 2)
decreasing_by exact Prod.Lex.right _ (by decide)

/-- A value behind its sign; without the sign there is none. -/
def valueSlot? (spaces : Namespaces) (context : NodeContext) (ends : List Token → Bool)
    (ts : List Token) : Option (Slot ts) :=
  match ts with
  | .value :: rest => (slot? spaces context ends rest).map fun slot => slot.widen (by simp)
  | ts => some (.absent ts)
termination_by (ts.length, 0)
decreasing_by exact Prod.Lex.left _ _ (by simp)

/-- The items of a block sequence, to its end. -/
def blockItems? (spaces : Namespaces) (ts : List Token) :
    Option (Parsed (List (Node String)) ts) :=
  match ts with
  | .blockEnd :: rest => some ⟨[], rest, by simp⟩
  | .blockEntry :: rest =>
    match slot? spaces .item endsItem rest with
    | none => none
    | some slot =>
      have hlt : slot.rest.length < (Token.blockEntry :: rest).length :=
        Nat.lt_succ_of_le slot.length_le
      (blockItems? spaces slot.rest).map fun p =>
        (p.map (slot.node :: ·)).widen (Nat.le_of_lt hlt)
  | _ => none
termination_by (ts.length, 0)
decreasing_by
  · exact Prod.Lex.left _ _ (by simp)
  · exact Prod.Lex.left _ _ hlt

/-- The items of a block sequence that stands no deeper than its key, at least one. It has no end
    of its own. -/
def indentlessItems? (spaces : Namespaces) (ts : List Token) :
    Option (Parsed (List (Node String)) ts) :=
  match ts with
  | .blockEntry :: rest =>
    match slot? spaces .item endsIndentless rest with
    | none => none
    | some slot =>
      have hlt : slot.rest.length < (Token.blockEntry :: rest).length :=
        Nat.lt_succ_of_le slot.length_le
      if slot.rest.head? = some .blockEntry then
        (indentlessItems? spaces slot.rest).map fun p =>
          (p.map (slot.node :: ·)).widen (Nat.le_of_lt hlt)
      else some ⟨[slot.node], slot.rest, hlt⟩
  | _ => none
termination_by (ts.length, 0)
decreasing_by
  · exact Prod.Lex.left _ _ (by simp)
  · exact Prod.Lex.left _ _ hlt

/-- The keys and values of a block mapping, to its end. -/
def blockFields? (spaces : Namespaces) (ts : List Token) :
    Option (Parsed (List (Node String × Node String)) ts) :=
  match ts with
  | .blockEnd :: rest => some ⟨[], rest, by simp⟩
  | .key :: rest =>
    match slot? spaces .field endsField rest with
    | none => none
    | some key =>
      have hkey : key.rest.length < (Token.key :: rest).length := Nat.lt_succ_of_le key.length_le
      match valueSlot? spaces .field endsField key.rest with
      | none => none
      | some value =>
        have hvalue : value.rest.length < (Token.key :: rest).length :=
          Nat.lt_of_le_of_lt value.length_le hkey
        (blockFields? spaces value.rest).map fun p =>
          (p.map ((key.node, value.node) :: ·)).widen (Nat.le_of_lt hvalue)
  | _ => none
termination_by (ts.length, 0)
decreasing_by
  · exact Prod.Lex.left _ _ (by simp)
  · exact Prod.Lex.left _ _ hkey
  · exact Prod.Lex.left _ _ hvalue

/-- The items of a sequence in brackets, from the start of one of them or from the end. -/
def flowItems? (spaces : Namespaces) (ts : List Token) :
    Option (Parsed (List (Node String)) ts) :=
  match ts with
  | .flowSequenceEnd :: rest => some ⟨[], rest, by simp⟩
  | .key :: rest =>
    match flowPair? spaces rest with
    | none => none
    | some slot =>
      have hlt : slot.rest.length < (Token.key :: rest).length := Nat.lt_succ_of_le slot.length_le
      (flowItemsEnd? spaces slot.rest).map fun p =>
        (p.map (slot.node :: ·)).widen (Nat.le_of_lt hlt)
  | ts =>
    match node? spaces .flow ts with
    | none => none
    | some first => (flowItemsEnd? spaces first.rest).map fun p => first.andThen p List.cons
termination_by (ts.length, 2)
decreasing_by
  · exact Prod.Lex.left _ _ (by simp)
  · exact Prod.Lex.left _ _ hlt
  · exact Prod.Lex.right _ (by decide)
  · exact Prod.Lex.left _ _ first.shorter

/-- What follows an item in brackets: the end, or a comma and more. -/
def flowItemsEnd? (spaces : Namespaces) (ts : List Token) :
    Option (Parsed (List (Node String)) ts) :=
  match ts with
  | .flowSequenceEnd :: rest => some ⟨[], rest, by simp⟩
  | .flowEntry :: rest => (flowItems? spaces rest).map fun p => p.widen (by simp)
  | _ => none
termination_by (ts.length, 0)
decreasing_by exact Prod.Lex.left _ _ (by simp)

/-- A mapping of one key and its value inside brackets, behind the sign of the key. Where the key
    is missing, the token that shows this is lost. -/
def flowPair? (spaces : Namespaces) (ts : List Token) : Option (Slot ts) :=
  let key? : Option (Slot ts) :=
    if atValue ts || endsFlowItem ts then some ⟨.absent, ts.drop 1, by simp⟩
    else (node? spaces .flow ts).map Slot.present
  match key? with
  | none => none
  | some key =>
    (valueSlot? spaces .flow endsFlowItem key.rest).map fun value =>
      ⟨.mapping {} [(key.node, value.node)], value.rest,
        Nat.le_trans value.length_le key.length_le⟩
termination_by (ts.length, 2)
decreasing_by
  · exact Prod.Lex.right _ (by decide)
  · rcases Nat.lt_or_eq_of_le key.length_le with hlt | heq
    · exact Prod.Lex.left _ _ hlt
    · rw [heq]
      exact Prod.Lex.right _ (by decide)

/-- The keys and values of a mapping in braces, from the start of one of them or from the end. -/
def flowFields? (spaces : Namespaces) (ts : List Token) :
    Option (Parsed (List (Node String × Node String)) ts) :=
  match ts with
  | .flowMappingEnd :: rest => some ⟨[], rest, by simp⟩
  | .key :: rest =>
    match slot? spaces .flow (fun ts => atValue ts || endsFlowField ts) rest with
    | none => none
    | some key =>
      have hkey : key.rest.length < (Token.key :: rest).length := Nat.lt_succ_of_le key.length_le
      match valueSlot? spaces .flow endsFlowField key.rest with
      | none => none
      | some value =>
        have hvalue : value.rest.length < (Token.key :: rest).length :=
          Nat.lt_of_le_of_lt value.length_le hkey
        (flowFieldsEnd? spaces value.rest).map fun p =>
          (p.map ((key.node, value.node) :: ·)).widen (Nat.le_of_lt hvalue)
  | ts =>
    match node? spaces .flow ts with
    | none => none
    | some key =>
      (flowFieldsEnd? spaces key.rest).map fun p =>
        key.andThen p fun key others => (key, .absent) :: others
termination_by (ts.length, 2)
decreasing_by
  · exact Prod.Lex.left _ _ (by simp)
  · exact Prod.Lex.left _ _ hkey
  · exact Prod.Lex.left _ _ hvalue
  · exact Prod.Lex.right _ (by decide)
  · exact Prod.Lex.left _ _ key.shorter

/-- What follows a key and its value in braces: the end, or a comma and more. -/
def flowFieldsEnd? (spaces : Namespaces) (ts : List Token) :
    Option (Parsed (List (Node String × Node String)) ts) :=
  match ts with
  | .flowMappingEnd :: rest => some ⟨[], rest, by simp⟩
  | .flowEntry :: rest => (flowFields? spaces rest).map fun p => p.widen (by simp)
  | _ => none
termination_by (ts.length, 0)
decreasing_by exact Prod.Lex.left _ _ (by simp)

end

/-- Reads the directives before a document: at most one version, which has to be known, and
    namespaces under different handles. -/
def directives? (version : Bool) (spaces : Namespaces) :
    List Token → Option (Namespaces × List Token)
  | .versionDirective major minor :: ts =>
    if version || major ≠ 1 || !(minor = 1 || minor = 2) then none
    else directives? true spaces ts
  | .tagDirective handle space :: ts =>
    if (spaces.lookup handle).isSome then none
    else directives? version (spaces ++ [(handle, space)]) ts
  | ts => some (spaces, ts)

/-- Whether a document starts here without a mark. -/
def startsBare : List Token → Bool
  | .versionDirective _ _ :: _ | .tagDirective _ _ :: _ | .documentStart :: _ => false
  | _ => true

/-- The tokens behind which a document that is marked has nothing in it. -/
def endsDocument : List Token → Bool
  | [] => true
  | .documentEnd :: _ => true
  | ts => !startsBare ts

/-- The node of a document, and the tokens behind it. -/
def documentNode? (ts : List Token) : Option (Node String × List Token) :=
  if startsBare ts then
    (node? coreNamespaces .item ts).map fun p => (p.value, p.rest)
  else
    match directives? false [] ts with
    | some (spaces, .documentStart :: ts) =>
      (slot? (spaces ++ coreNamespaces) .item endsDocument ts).map fun slot =>
        (slot.node, slot.rest)
    | _ => none

/-- The node of the only document among the tokens of a source. There may be none at all; with more
    than one, or with anything else behind the first, the source is refused. -/
def singleDocument? (ts : List Token) : Option (Option (Node String)) :=
  if ts.isEmpty then some none
  else
    match documentNode? ts with
    | none => none
    | some (node, rest) => if rest.all (· = .documentEnd) then some (some node) else none

end RuleGraph.Yaml
