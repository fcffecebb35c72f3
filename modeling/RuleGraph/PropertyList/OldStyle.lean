import RuleGraph.Json.Text
import RuleGraph.PropertyList.Bytes
import RuleGraph.PropertyList.Event
import RuleGraph.PropertyList.Number

namespace RuleGraph.PropertyList.OldStyle

/-- The code points of the characters that octal numbers from 128 up to 255 stand for. -/
def highCharacters : List Nat :=
  [0xA0, 0xC0, 0xC1, 0xC2, 0xC3, 0xC4, 0xC5, 0xC7,
    0xC8, 0xC9, 0xCA, 0xCB, 0xCC, 0xCD, 0xCE, 0xCF,
    0xD0, 0xD1, 0xD2, 0xD3, 0xD4, 0xD5, 0xD6, 0xD9,
    0xDA, 0xDB, 0xDC, 0xDD, 0xDE, 0xB5, 0xD7, 0xF7,
    0xA9, 0xA1, 0xA2, 0xA3, 0x2044, 0xA5, 0x192, 0xA7,
    0xA4, 0x2019, 0x201C, 0xAB, 0x2039, 0x203A, 0xFB01, 0xFB02,
    0xAE, 0x2013, 0x2020, 0x2021, 0xB7, 0xA6, 0xB6, 0x2022,
    0x201A, 0x201E, 0x201D, 0xBB, 0x2026, 0x2030, 0xAC, 0xBF,
    0xB9, 0x2CB, 0xB4, 0x2C6, 0x2DC, 0xAF, 0x2D8, 0x2D9,
    0xA8, 0xB2, 0x2DA, 0xB8, 0xB3, 0x2DD, 0x2DB, 0x2C7,
    0x2014, 0xB1, 0xBC, 0xBD, 0xBE, 0xE0, 0xE1, 0xE2,
    0xE3, 0xE4, 0xE5, 0xE7, 0xE8, 0xE9, 0xEA, 0xEB,
    0xEC, 0xC6, 0xED, 0xAA, 0xEE, 0xEF, 0xF0, 0xF1,
    0x141, 0xD8, 0x152, 0xBA, 0xF2, 0xF3, 0xF4, 0xF5,
    0xF6, 0xE6, 0xF9, 0xFA, 0xFB, 0x131, 0xFC, 0xFD,
    0x142, 0xF8, 0x153, 0xDF, 0xFE, 0xFF, 0xFFFD, 0xFFFD]

/-- The character that an octal number stands for. Numbers that no byte has are code points. -/
def charOfOctal (n : Nat) : Char :=
  Char.ofNat (if n < 0x80 then n else (highCharacters[n - 0x80]?).getD n)

/-- The character that a letter stands for behind a backslash. -/
def escapedChar? : Char → Option Char
  | '\\' => some '\\'
  | '"' => some '"'
  | '\'' => some '\''
  | 'a' => some '\x07'
  | 'b' => some '\x08'
  | 'f' => some '\x0c'
  | 'n' => some '\n'
  | 'r' => some '\r'
  | 't' => some '\t'
  | 'v' => some '\x0b'
  | _ => none

/-- Hexadecimal digits, with a sign before them or without one. -/
def signedDigits? : List Char → Option Nat
  | '+' :: digits => natOfDigits? 16 digits
  | digits => natOfDigits? 16 digits

/-- Four hexadecimal digits behind a backslash and a capital `U`, and what follows. A sign may stand
    in the place of the first one. -/
def codeUnit? : List Char → Option (Nat × List Char)
  | '\\' :: 'U' :: a :: b :: c :: d :: s =>
    (signedDigits? [a, b, c, d]).map fun unit => (unit, s)
  | _ => none

/-- The character that one or two code units stand for, and what follows. -/
def codeUnits? (s : List Char) : Option (Char × List Char) :=
  match codeUnit? s with
  | none => none
  | some (unit, s) =>
    if Json.isHighSurrogate unit then
      match codeUnit? s with
      | some (low, s) =>
        if Json.isLowSurrogate low then some (Json.charOfPair unit low, s) else none
      | none => none
    else if Json.isLowSurrogate unit then none
    else some (Char.ofNat unit, s)

/-- The character that stands behind a backslash, and what follows. -/
def escape? : List Char → Option (Char × List Char)
  | [] => none
  | c :: s =>
    if c = 'U' then codeUnits? ('\\' :: c :: s)
    else if isDigit c then
      match s with
      | d :: e :: s => (natOfDigits? 8 [c, d, e]).map fun n => (charOfOctal n, s)
      | _ => none
    else (escapedChar? c).map fun c => (c, s)

/-- Takes the rest of something for the rest of something longer, if it is a rest at all. -/
def behind? (s : List Char) (found : Option (Char × List Char)) :
    Option (Parsed (List Char) s) :=
  match found with
  | some (c, rest) =>
    if h : rest.length < s.length then some ⟨encodeChar c, rest, h⟩ else none
  | none => none

/-- The inside of a string in quotes, from behind the opening quote up to behind the closing
    one. -/
def quotedBody? (quote : Char) (s : List Char) : Option (Parsed (List Char) s) :=
  match s with
  | [] => none
  | c :: r =>
    if c = quote then some ⟨[], r, by simp⟩
    else
      match if c = '\\' then behind? (c :: r) (escape? r) else some ⟨[c], r, by simp⟩ with
      | none => none
      | some first =>
        (quotedBody? quote first.rest).map fun rest => first.andThen rest (· ++ ·)
termination_by s.length
decreasing_by exact first.shorter

/-- Whether a character goes on with a string without quotes. -/
def isBare (c : Char) : Bool :=
  c ∉ [' ', ')', '\r', '\t', ';', ',']

/-- The value of a string without quotes: a number, if it is a whole one. -/
def bareValue? (s : List Char) : Option Document :=
  (decodeChars? s).map fun text =>
    match integer? text.toList with
    | some n => .int n
    | none => .string text

/-- What a step through a file finds, and what follows. Blanks and comments are no events. -/
abbrev Found (s : List Char) := Parsed (List Event) s

/-- A string without quotes that starts with `first` and goes on in `r`. -/
def bare? (first : Char) (r : List Char) (c : Char) : Option (Found (c :: r)) :=
  (bareValue? (first :: r.takeWhile isBare)).map fun value =>
    ⟨[.value value], r.dropWhile isBare, by
      have := (List.dropWhile_sublist isBare (l := r)).length_le
      simp only [List.length_cons]
      omega⟩

/-- A string in quotes, from behind the opening quote. -/
def quoted? (quote : Char) (r : List Char) : Option (Found (quote :: r)) :=
  match quotedBody? quote r with
  | none => none
  | some body =>
    (decodeChars? body.value).map fun text =>
      (body.map fun _ => [Event.value (.string text)]).widen (by simp)

/-- What follows the end of a comment over several lines. A star goes together with the character
    behind it: both end the comment if that is a slash or missing, and both belong to it
    otherwise. -/
def afterComment? : List Char → Option (List Char)
  | [] => none
  | ['*'] => some []
  | '*' :: '/' :: s => some s
  | '*' :: _ :: s => afterComment? s
  | _ :: s => afterComment? s

theorem length_lt_of_afterComment? {s rest : List Char} (h : afterComment? s = some rest) :
    rest.length < s.length := by
  fun_induction afterComment? s with
  | case1 => simp at h
  | case2 | case3 =>
    obtain rfl := Option.some.inj h
    simp only [List.length_cons, List.length_nil]
    omega
  | case4 | case5 =>
    rename_i ih
    have := ih h
    simp only [List.length_cons]
    omega

/-- What begins with a slash, from behind it: a comment, or a string in which the first character
    comes twice. -/
def slash? (slash : Char) (r : List Char) : Option (Found (slash :: r)) :=
  match r with
  | [] => none
  | '/' :: s =>
    some ⟨[], s.dropWhile (· ≠ '\n'), by
      have := (List.dropWhile_sublist (· ≠ '\n') (l := s)).length_le
      simp only [List.length_cons]
      omega⟩
  | '*' :: s =>
    match h : afterComment? ('*' :: s) with
    | none => none
    | some rest =>
      some ⟨[], rest, by
        have := length_lt_of_afterComment? h
        simp only [List.length_cons] at this ⊢
        omega⟩
  | c :: s => bare? c (c :: s) slash

/-- The events of a character that is no part of a string or comment. -/
def eventsOfMark? : Char → Option (List Event)
  | '(' => some [.startArray]
  | '\x7b' => some [.startDictionary]
  | ')' | '\x7d' => some [.finish]
  | ',' | ';' | '=' | ' ' | '\r' | '\t' | '\n' => some []
  | _ => none

/-- One step through a file that is not at its end. -/
def next? (c : Char) (r : List Char) : Option (Found (c :: r)) :=
  match eventsOfMark? c with
  | some events => some ⟨events, r, by simp⟩
  | none =>
    if c = '"' ∨ c = '\'' then quoted? c r
    else if c = '/' then slash? c r
    else bare? c r c

/-- The events of a file in the old style, in bytes that are given as characters: arrays in round
    brackets, dictionaries in braces, and strings with or without quotes. The characters between
    values mean nothing, so a list reads the same whichever of them it uses, and a closing mark of
    either kind closes what was opened last. -/
def events? (s : List Char) : Option (List Event) :=
  match s with
  | [] => some []
  | c :: r =>
    match next? c r with
    | none => none
    | some found =>
      (events? found.rest).map fun events => found.value ++ events
termination_by s.length
decreasing_by exact found.shorter

end RuleGraph.PropertyList.OldStyle
