import RuleGraph.Address.Label
import RuleGraph.Address.Numeric
import RuleGraph.Address.Punycode

namespace RuleGraph.Address

/-- The bytes of a text in which a percent sign and two hexadecimal digits stand for a byte. -/
def bytesOfEscaped : List Char → List UInt8
  | [] => []
  | '%' :: a :: b :: s =>
    match natOfDigits? 16 [a, b] with
    | some byte => .ofNat byte :: bytesOfEscaped s
    | none => 0x25 :: bytesOfEscaped (a :: b :: s)
  | c :: s => String.utf8EncodeChar c ++ bytesOfEscaped s

/-- A character that no name has. -/
def isForbidden (c : Char) : Bool :=
  c.toNat ≤ 0x20 || c.toNat = 0x7F ||
    c ∈ ['#', '%', '/', ':', '<', '>', '?', '@', '[', '\\', ']', '^', '|']

/-- A name in its plain form, if every character of it has one. -/
def folded? (name : List Char) : Option (List Char) := do
  let text ← String.fromUTF8? ⟨(bytesOfEscaped name).toArray⟩
  let parts ← text.toList.mapM fold?
  if parts.flatten.any isForbidden then none else some parts.flatten

/-- Whether a text can only be written in the digits of a label: it has characters that are not
    plain, all of its characters are in their plain form, and no accent stands on a letter with which
    it makes up one character. -/
def needsDigits (label : List Char) : Bool :=
  label.any (0x80 ≤ ·.toNat) && label.all (fun c => isFolded c && !isForbidden c) &&
    (label.zip (label.drop 1)).all fun (c, accent) =>
      !c.isAlpha || accent.toNat < 0x300 || 0x36F < accent.toNat

/-- The label that stands in a name, where `xn--` stands before the digits of a label. -/
def label? : List Char → Option (List Char)
  | 'x' :: 'n' :: '-' :: '-' :: s => (Punycode.decode? s).filter needsDigits
  | label => some label

/-- Whether a text names a machine. -/
def isName (name : List Char) : Bool :=
  match folded? name with
  | none | some [] => false
  | some plain =>
    let parts := ((String.ofList plain).splitOn ".").map (·.toList)
    (parts.mapM label?).any areLabels && (!endsInNumber parts || isFourBytes parts)

/-- Whether a text is the number of a machine in brackets, or names it. A name is brought to its
    plain form first, which may turn out to be a number of four bytes; if not, it has labels between
    dots. -/
def isHost : List Char → Bool
  | '[' :: s => s.getLast? = some ']' && isEightGroups s.dropLast
  | name => isName name

end RuleGraph.Address
