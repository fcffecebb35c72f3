import RuleGraph.Document.Basic

namespace RuleGraph.Cson

/-- Whether a whole number fits into 64 bits with a sign. -/
def fitsSigned (n : Int) : Bool :=
  -0x8000000000000000 ≤ n && n < 0x8000000000000000

/-- The whole number that hexadecimal digits denote, with a sign or without one, within 64 bits. -/
def hexValue? (text : List Char) : Option Document :=
  match intOfText? 16 text with
  | some n => if fitsSigned n then some (.int n) else none
  | none => none

/-- The value of a decimal number with or without a fraction. Numbers too large for 64 bits of
    floating point have none. -/
def floatValue? (text : List Char) : Option Document :=
  match Decimal.ofText? text with
  | some d => if d.toBinary64.isFinite then some (.float d.toBinary64) else none
  | none => none

/-- The value of a number that is no whole number within 64 bits. -/
def otherValue? : List Char → Option Document
  | '0' :: 'x' :: digits => hexValue? digits
  | text => floatValue? text

/-- The value of a number as written. Whole numbers within 64 bits stay whole; behind `0x` there
    are only whole numbers; what is left is read as a floating-point number. -/
def numberValue? (text : List Char) : Option Document :=
  match intOfText? 10 text with
  | some n => if fitsSigned n then some (.int n) else otherValue? text
  | none => otherValue? text

/-- The value of a bare word. -/
def keywordValue? (word : String) : Option Document :=
  if word ∈ ["true", "yes", "on"] then some (.bool true)
  else if word ∈ ["false", "no", "off"] then some (.bool false)
  else if word ∈ ["null", "undefined"] then some .null
  else none

end RuleGraph.Cson
