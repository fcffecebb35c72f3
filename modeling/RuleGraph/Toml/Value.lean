import RuleGraph.Decimal.Shortest
import RuleGraph.Text.Quoted

namespace RuleGraph.Toml

/-- A value. -/
inductive Value where
  | string (text : String)
  /-- A whole number of 64 bits with a sign. -/
  | int (value : Int)
  | float (value : Binary64)
  /-- A number that is written by the rules and stands for no value: it is too large, or no digit
      follows the mark of its base. -/
  | unreadable
  | bool (value : Bool)
  /-- A date, a time of day, or both. -/
  | date (text : String)
  | array (items : List Value)
  /-- Named values, in increasing order of the names. -/
  | table (fields : List (String × Value))
  deriving Repr, Inhabited

mutual

/-- Whether all numbers of a value stand for something. -/
def Value.isReadable : Value → Bool
  | .unreadable => false
  | .array items => itemsReadable items
  | .table fields => fieldsReadable fields
  | _ => true

/-- Whether all numbers of some values stand for something. -/
def itemsReadable : List Value → Bool
  | [] => true
  | item :: items => item.isReadable && itemsReadable items

/-- Whether all numbers of some fields stand for something. -/
def fieldsReadable : List (String × Value) → Bool
  | [] => true
  | (_, value) :: fields => value.isReadable && fieldsReadable fields

end

/-- How messages show floating-point numbers: always without a power of ten. -/
def messageLayout : Binary64.Layout where
  tie := .up
  plain := none

/-- How messages name what a value is. -/
def Value.describe : Value → String
  | string text => "string " ++ Text.quoted text
  | int value => "integer `" ++ toString value ++ "`"
  | float value => "floating point `" ++ value.text messageLayout ++ "`"
  | unreadable => "number"
  | bool value => "boolean `" ++ (if value then "true" else "false") ++ "`"
  | array _ => "sequence"
  | date _ | table _ => "map"

end RuleGraph.Toml
