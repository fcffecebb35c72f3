import RuleGraph.Proofs.Parsed
import RuleGraph.Yaml.Node

namespace RuleGraph.Yaml

/-- A token that starts a node in every place. -/
def opensNode : Token → Bool
  | .scalar _ _ | .flowSequenceStart | .flowMappingStart | .blockMappingStart => true
  | _ => false

section Readers

variable {spaces : Namespaces} {context : NodeContext} {t : Token} {ts : List Token}

/-- A scalar is a node by itself. -/
theorem found?_node?_scalar (plain : Bool) (text : String) :
    found? (node? spaces context (.scalar plain text :: ts)) =
      some (.scalar {} plain text, ts) := by
  rw [node?]
  · simp [prelude?, found?]
  · simp

/-- A sequence in brackets is read up to its closing bracket. -/
theorem found?_node?_sequence :
    found? (node? spaces context (.flowSequenceStart :: ts)) =
      (found? (flowItems? spaces ts)).map fun x => (.sequence {} x.1, x.2) := by
  rw [node?]
  · simp [prelude?, found?]
    rfl
  · simp

/-- A mapping in braces is read up to its closing brace. -/
theorem found?_node?_mapping :
    found? (node? spaces context (.flowMappingStart :: ts)) =
      (found? (flowFields? spaces ts)).map fun x => (.mapping {} x.1, x.2) := by
  rw [node?]
  · simp [prelude?, found?]
    rfl
  · simp

/-- A mapping without braces is read up to the end of its block, where a block may stand. -/
theorem found?_node?_block (h : context.block = true) :
    found? (node? spaces context (.blockMappingStart :: ts)) =
      (found? (blockFields? spaces ts)).map fun x => (.mapping {} x.1, x.2) := by
  rw [node?]
  · simp [prelude?, found?, h]
    rfl
  · simp

theorem found?_flowItems?_end :
    found? (flowItems? spaces (.flowSequenceEnd :: ts)) = some ([], ts) := by
  rw [flowItems?]
  rfl

/-- An item of a sequence, and the others behind it. -/
theorem found?_flowItems?_node (h : opensNode t = true) :
    found? (flowItems? spaces (t :: ts)) = (found? (node? spaces .flow (t :: ts))).bind fun x =>
      (found? (flowItemsEnd? spaces x.2)).map fun y => (x.1 :: y.1, y.2) := by
  rw [flowItems?]
  · cases node? spaces .flow (t :: ts) with
    | none => simp [found?]
    | some first =>
      simp [found?]
      rfl
  · rintro r heq
    obtain rfl := (List.cons.inj heq).1
    contradiction
  · rintro r heq
    obtain rfl := (List.cons.inj heq).1
    contradiction

theorem found?_flowItemsEnd?_end :
    found? (flowItemsEnd? spaces (.flowSequenceEnd :: ts)) = some ([], ts) := by
  rw [flowItemsEnd?]
  rfl

/-- A comma leads to further items, or to the end. -/
theorem found?_flowItemsEnd?_entry :
    found? (flowItemsEnd? spaces (.flowEntry :: ts)) = found? (flowItems? spaces ts) := by
  rw [flowItemsEnd?]
  simp [found?]
  rfl

theorem slot?_scalar {ends : List Token → Bool} (plain : Bool) (name : String)
    (h : ends (.scalar plain name :: ts) = false) :
    slot? spaces context ends (.scalar plain name :: ts) =
      some ⟨.scalar {} plain name, ts, Nat.le_succ _⟩ := by
  rw [slot?, if_neg (by simp [h]), node?]
  · simp [prelude?, Slot.present]
  · simp

theorem valueSlot?_node {ends : List Token → Bool} (h : ends ts = false) :
    valueSlot? spaces context ends (.value :: ts) =
      (node? spaces context ts).map fun p => (Slot.present p).widen (Nat.le_succ _) := by
  rw [valueSlot?, slot?, if_neg (by simp [h])]
  simp [Function.comp_def]

/-- What opens a node does not end the field in front of it. -/
theorem ends_eq_false (h : opensNode t = true) :
    endsField (t :: ts) = false ∧ endsFlowField (t :: ts) = false := by
  cases t <;> simp_all [opensNode, endsField, endsFlowField]

theorem found?_flowFields?_end :
    found? (flowFields? spaces (.flowMappingEnd :: ts)) = some ([], ts) := by
  rw [flowFields?]
  rfl

/-- A field of a mapping in braces: a key, its value, and the other fields behind it. -/
theorem found?_flowFields?_key (plain : Bool) (name : String) (h : opensNode t = true) :
    found? (flowFields? spaces (.key :: .scalar plain name :: .value :: t :: ts)) =
      (found? (node? spaces .flow (t :: ts))).bind fun x =>
        (found? (flowFieldsEnd? spaces x.2)).map fun y =>
          ((.scalar {} plain name, x.1) :: y.1, y.2) := by
  rw [flowFields?, slot?_scalar plain name rfl]
  simp only
  rw [valueSlot?_node (ends_eq_false h).2]
  cases node? spaces .flow (t :: ts) with
  | none => simp [found?]
  | some value =>
    simp [found?]
    rfl

theorem found?_flowFieldsEnd?_end :
    found? (flowFieldsEnd? spaces (.flowMappingEnd :: ts)) = some ([], ts) := by
  rw [flowFieldsEnd?]
  rfl

theorem found?_flowFieldsEnd?_entry :
    found? (flowFieldsEnd? spaces (.flowEntry :: ts)) = found? (flowFields? spaces ts) := by
  rw [flowFieldsEnd?]
  simp [found?]
  rfl

theorem found?_blockFields?_end :
    found? (blockFields? spaces (.blockEnd :: ts)) = some ([], ts) := by
  rw [blockFields?]
  rfl

/-- A field of a block: a key, its value, and directly behind it the other fields. -/
theorem found?_blockFields?_key (plain : Bool) (name : String) (h : opensNode t = true) :
    found? (blockFields? spaces (.key :: .scalar plain name :: .value :: t :: ts)) =
      (found? (node? spaces .field (t :: ts))).bind fun x =>
        (found? (blockFields? spaces x.2)).map fun y =>
          ((.scalar {} plain name, x.1) :: y.1, y.2) := by
  rw [blockFields?, slot?_scalar plain name rfl]
  simp only
  rw [valueSlot?_node (ends_eq_false h).1]
  cases node? spaces .field (t :: ts) with
  | none => simp [found?]
  | some value =>
    simp [found?]
    rfl

end Readers

end RuleGraph.Yaml
