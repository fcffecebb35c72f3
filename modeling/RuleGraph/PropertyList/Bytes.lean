namespace RuleGraph.PropertyList

/-- Each byte as the character of the same number. The marks of property lists in the old style are
    all ASCII, so a file is split up byte by byte, and what stands between the marks is taken for
    UTF-8 afterwards. -/
def charsOfBytes (input : ByteArray) : List Char :=
  input.toList.map fun b => Char.ofNat b.toNat

/-- The text in bytes that are given as characters. -/
def decodeChars? (s : List Char) : Option String :=
  String.fromUTF8? ⟨(s.map fun c => UInt8.ofNat c.toNat).toArray⟩

/-- The bytes of one character, given as characters. -/
def encodeChar (c : Char) : List Char :=
  charsOfBytes (String.singleton c).toUTF8

end RuleGraph.PropertyList
