import RuleGraph.Document.Basic

namespace RuleGraph

namespace Document

variable (same : String → String → Prop)

mutual

/-- The documents have the same shape and the same values, but for texts that count as the same. -/
inductive Like : Document → Document → Prop where
  | refl (d : Document) : Like d d
  | string {s t : String} (h : same s t) : Like (.string s) (.string t)
  | array {items items' : List Document} (h : LikeItems items items') :
      Like (.array items) (.array items')
  | object {fields fields' : List (String × Document)} (h : LikeFields fields fields') :
      Like (.ofFields fields) (.ofFields fields')

inductive LikeItems : List Document → List Document → Prop where
  | nil : LikeItems [] []
  | cons {d d' : Document} {items items' : List Document} (hfirst : Like d d')
      (hrest : LikeItems items items') : LikeItems (d :: items) (d' :: items')

inductive LikeFields : List (String × Document) → List (String × Document) → Prop where
  | nil : LikeFields [] []
  | cons {name name' : String} {d d' : Document} {fields fields' : List (String × Document)}
      (hname : same name name') (hfirst : Like d d') (hrest : LikeFields fields fields') :
      LikeFields ((name, d) :: fields) ((name', d') :: fields')

end

variable {same : String → String → Prop}

mutual

/-- If only equal texts count as the same, documents of the same shape are equal. -/
theorem Like.eq (hsame : ∀ s t, same s t → s = t) {d d' : Document} (h : Like same d d') :
    d = d' := by
  match h with
  | .refl d => rfl
  | .string h => exact congrArg Document.string (hsame _ _ h)
  | .array h => exact congrArg Document.array (h.eq hsame)
  | .object h => exact congrArg Document.ofFields (h.eq hsame)

theorem LikeItems.eq (hsame : ∀ s t, same s t → s = t) {items items' : List Document}
    (h : LikeItems same items items') : items = items' := by
  match h with
  | .nil => rfl
  | .cons hfirst hrest => rw [hfirst.eq hsame, hrest.eq hsame]

theorem LikeFields.eq (hsame : ∀ s t, same s t → s = t) {fields fields' : List (String × Document)}
    (h : LikeFields same fields fields') : fields = fields' := by
  match h with
  | .nil => rfl
  | .cons hname hfirst hrest => rw [hsame _ _ hname, hfirst.eq hsame, hrest.eq hsame]

end

end Document

end RuleGraph
