import RuleGraph.Decimal.Binary64
import RuleGraph.Entries

namespace RuleGraph

/-- A document or a part of it: the values that all grammar formats have in common. -/
inductive Document where
  /-- No value. -/
  | null
  /-- A truth value. -/
  | bool (value : Bool)
  /-- A whole number. -/
  | int (value : Int)
  /-- A finite floating-point number. -/
  | float (value : Binary64)
  /-- A text. -/
  | string (text : String)
  /-- Values in order. -/
  | array (items : List Document)
  /-- Named values, in the order in which the names came first. -/
  | object (fields : List (String × Document))
  deriving Repr, Inhabited

namespace Document

/-- The object made of the given fields, set one after the other: a name that comes again gives its
    value to the first place. -/
def ofFields (fields : List (String × Document)) : Document :=
  .object (setEntries [] fields)

/-- The floating-point number, or no value if it is not finite. -/
def ofFloat (x : Binary64) : Document :=
  if x.isFinite then .float x else .null

/-- Whether the document is an object. -/
def isObject : Document → Bool
  | .object _ => true
  | _ => false

end Document

end RuleGraph
