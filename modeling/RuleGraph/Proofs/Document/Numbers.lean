import RuleGraph.Document.Basic

namespace RuleGraph

namespace Document

mutual

/-- The document with zero for every number. -/
def withoutNumbers : Document → Document
  | .int _ | .float _ => .int 0
  | .array items => .array (itemsWithoutNumbers items)
  | .object fields => .object (fieldsWithoutNumbers fields)
  | .null => .null
  | .bool value => .bool value
  | .string text => .string text

def itemsWithoutNumbers : List Document → List Document
  | [] => []
  | d :: items => d.withoutNumbers :: itemsWithoutNumbers items

def fieldsWithoutNumbers : List (String × Document) → List (String × Document)
  | [] => []
  | (name, d) :: fields => (name, d.withoutNumbers) :: fieldsWithoutNumbers fields

end

/-- Setting a field looks at names only, so numbers can be left out before or after. -/
theorem fieldsWithoutNumbers_setEntry (name : String) (d : Document)
    (fields : List (String × Document)) :
    fieldsWithoutNumbers (setEntry name d fields) =
      setEntry name d.withoutNumbers (fieldsWithoutNumbers fields) := by
  induction fields with
  | nil => simp only [setEntry, fieldsWithoutNumbers]
  | cons field fields ih =>
    obtain ⟨n, v⟩ := field
    by_cases h : n = name
    · rw [setEntry, if_pos h, fieldsWithoutNumbers, fieldsWithoutNumbers, setEntry, if_pos h]
    · rw [setEntry, if_neg h, fieldsWithoutNumbers, ih, fieldsWithoutNumbers, setEntry, if_neg h]

theorem fieldsWithoutNumbers_setEntries (fields more : List (String × Document)) :
    fieldsWithoutNumbers (setEntries fields more) =
      setEntries (fieldsWithoutNumbers fields) (fieldsWithoutNumbers more) := by
  induction more generalizing fields with
  | nil => simp only [setEntries, List.foldl_nil, fieldsWithoutNumbers]
  | cons field more ih =>
    obtain ⟨name, d⟩ := field
    have hrest := ih (setEntry name d fields)
    rw [fieldsWithoutNumbers_setEntry] at hrest
    rw [fieldsWithoutNumbers]
    exact hrest

/-- It makes no difference whether the numbers are left out before or after fields are set. -/
theorem withoutNumbers_ofFields (fields : List (String × Document)) :
    (ofFields fields).withoutNumbers = ofFields (fieldsWithoutNumbers fields) := by
  rw [ofFields, withoutNumbers, fieldsWithoutNumbers_setEntries, fieldsWithoutNumbers]
  rfl

end Document

end RuleGraph
