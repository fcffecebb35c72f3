import RuleGraph.Decimal.Digits
import RuleGraph.Yaml.Source
import RuleGraph.Yaml.Token

namespace RuleGraph.Yaml

/-- A character of the name of an anchor, of a handle and of a directive. -/
def isNameChar (c : Char) : Bool :=
  c.isAlphanum || c = '_' || c = '-'

/-- A sign of a tag besides letters and digits. -/
def isTagSign (c : Char) : Bool :=
  c ∈ [';', '/', '?', ':', '@', '&', '=', '+', '$', '.', '%', '!', '~', '*', '\'', '(', ')']

/-- A character of a tag. One that is spelled out may hold signs that would otherwise end it. -/
def isTagChar (spelledOut : Bool) (c : Char) : Bool :=
  isNameChar c || isTagSign c || (spelledOut && (c = ',' || c = '[' || c = ']'))

/-- The number of bytes that a byte announces for a character, none if it cannot be the first. -/
def sequenceLength? (byte : Nat) : Option Nat :=
  if byte < 0x80 then some 1
  else if 0xC0 ≤ byte ∧ byte < 0xE0 then some 2
  else if 0xE0 ≤ byte ∧ byte < 0xF0 then some 3
  else if 0xF0 ≤ byte ∧ byte < 0xF8 then some 4
  else none

/-- The bytes of a tag and the number of characters taken. `owed` counts the bytes that must follow
    as escapes, as parts of the same character. -/
def tagBytes? (spelledOut : Bool) (owed : Nat) : List Char → Option (List UInt8 × Nat)
  | '%' :: a :: b :: s =>
    match natOfDigits? 16 [a, b] with
    | none => none
    | some byte =>
      let owed? :=
        match owed with
        | 0 => (sequenceLength? byte).map (· - 1)
        | n + 1 => if 0x80 ≤ byte ∧ byte < 0xC0 then some n else none
      match owed? with
      | none => none
      | some owed =>
        (tagBytes? spelledOut owed s).map fun (bytes, taken) =>
          (UInt8.ofNat byte :: bytes, taken + 3)
  | c :: s =>
    if 0 < owed || c = '%' then none
    else if isTagChar spelledOut c then
      (tagBytes? spelledOut 0 s).map fun (bytes, taken) =>
        (UInt8.ofNat c.toNat :: bytes, taken + 1)
    else some ([], 0)
  | [] => if 0 < owed then none else some ([], 0)

/-- The bytes of a text in UTF-8. -/
def bytesOf (text : String) : List UInt8 :=
  text.toUTF8.toList

/-- A handle, from its first exclamation mark to its last one if there is one, and all its
    characters otherwise. -/
def handleChars : List Char → List Char
  | '!' :: s =>
    let name := s.takeWhile isNameChar
    match s.drop name.length with
    | '!' :: _ => '!' :: name ++ ['!']
    | _ => '!' :: name
  | _ => []

/-- Whether a handle ends with an exclamation mark of its own. -/
def isClosedHandle (handle : List Char) : Bool :=
  2 ≤ handle.length && handle.getLast? = some '!'

/-- A tag, from its exclamation mark on. -/
def tag? (s : List Char) : Option (RawTag × Nat) :=
  match s with
  | '!' :: '<' :: r =>
    match tagBytes? true 0 r with
    | some (bytes, taken) =>
      if 0 < taken ∧ (r.drop taken).head? = some '>' then some (⟨"", bytes⟩, taken + 3) else none
    | none => none
  | _ =>
    let handle := handleChars s
    match tagBytes? false 0 (s.drop handle.length) with
    | none => none
    | some (bytes, taken) =>
      if isClosedHandle handle then
        if 0 < taken then some (⟨String.ofList handle, bytes⟩, handle.length + taken) else none
      else
        let suffix := bytesOf (String.ofList (handle.drop 1)) ++ bytes
        let tag : RawTag := if suffix.isEmpty then ⟨"", bytesOf "!"⟩ else ⟨"!", suffix⟩
        some (tag, handle.length + taken)

/-- Whether a tag may end before the given text. -/
def tagEndsBefore (flow : Bool) (s : List Char) : Bool :=
  atSpace s || (flow && s.head? = some ',')

/-- The name of an anchor or alias, behind its sign. At least one character, and nothing right
    behind it that would read on. -/
def anchorName? (s : List Char) : Option (String × Nat) :=
  let name := s.takeWhile isNameChar
  let rest := s.drop name.length
  let ends := atSpace rest ||
    rest.head?.any (· ∈ ['?', ':', ',', ']', '\x7d', '%', '@', '\x60'])
  if name.isEmpty || !ends then none else some (String.ofList name, name.length)

/-- The most digits of a part of a version. -/
def maxVersionDigits : Nat := 9

/-- A part of a version. -/
def versionPart? (s : List Char) : Option (Nat × Nat) :=
  let digits := s.takeWhile isDigit
  if digits.isEmpty || maxVersionDigits < digits.length then none
  else some (natOfDecimals digits, digits.length)

/-- The value of a version directive, behind blanks. -/
def versionValue? (s : List Char) : Option (Token × Nat) :=
  match versionPart? s with
  | none => none
  | some (major, n) =>
    match s.drop n with
    | '.' :: r =>
      (versionPart? r).map fun (minor, m) => (.versionDirective major minor, n + 1 + m)
    | _ => none

/-- The value of a tag directive, behind blanks: a handle, blanks, and what the handle stands
    for. -/
def tagValue? (s : List Char) : Option (Token × Nat) :=
  let handle := handleChars s
  let rest := s.drop handle.length
  let blanks := rest.takeWhile isSpaceOrTab
  if handle.isEmpty || !(isClosedHandle handle || handle = ['!']) || blanks.isEmpty then none
  else
    match tagBytes? true 0 (rest.drop blanks.length) with
    | none => none
    | some (bytes, taken) =>
      if taken = 0 ∨ !atSpace (rest.drop (blanks.length + taken)) then none
      else
        some (.tagDirective (String.ofList handle) bytes,
          handle.length + blanks.length + taken)

/-- A directive behind its sign. -/
def directive? (s : List Char) : Option (Token × Nat) :=
  let name := s.takeWhile isNameChar
  let rest := s.drop name.length
  let blanks := rest.takeWhile isSpaceOrTab
  let value := rest.drop blanks.length
  let found :=
    if !atSpace rest then none
    else if name = ['Y', 'A', 'M', 'L'] then versionValue? value
    else if name = ['T', 'A', 'G'] then tagValue? value
    else none
  match found with
  | none => none
  | some (token, taken) =>
    (restOfLine? (value.drop taken)).map fun more =>
      (token, name.length + blanks.length + taken + more)

end RuleGraph.Yaml
