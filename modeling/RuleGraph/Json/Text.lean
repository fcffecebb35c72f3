import RuleGraph.Decimal.Digits
import RuleGraph.Parsed

namespace RuleGraph.Json

/-- The character that a letter stands for behind a backslash. -/
def escapedChar? : Char → Option Char
  | '"' => some '"'
  | '\\' => some '\\'
  | '/' => some '/'
  | 'b' => some '\x08'
  | 'f' => some '\x0c'
  | 'n' => some '\n'
  | 'r' => some '\r'
  | 't' => some '\t'
  | _ => none

/-- The first code unit of a surrogate pair. -/
def isHighSurrogate (unit : Nat) : Bool :=
  0xD800 ≤ unit && unit ≤ 0xDBFF

/-- The second code unit of a surrogate pair. -/
def isLowSurrogate (unit : Nat) : Bool :=
  0xDC00 ≤ unit && unit ≤ 0xDFFF

/-- The character of a surrogate pair. -/
def charOfPair (high low : Nat) : Char :=
  Char.ofNat (0x10000 + (high - 0xD800) * 0x400 + (low - 0xDC00))

/-- The text of a string from behind its opening quote, and what follows its closing quote. A
    control character cannot stand in a string as it is. -/
def stringBody : List Char → Option (List Char × List Char)
  | [] => none
  | '"' :: s => some ([], s)
  | '\\' :: 'u' :: a :: b :: c :: d :: s =>
    match natOfDigits? 16 [a, b, c, d] with
    | none => none
    | some unit =>
      if isHighSurrogate unit then
        match s with
        | '\\' :: 'u' :: e :: f :: g :: h :: s =>
          match natOfDigits? 16 [e, f, g, h] with
          | none => none
          | some low =>
            if isLowSurrogate low then
              (stringBody s).map fun (text, rest) => (charOfPair unit low :: text, rest)
            else none
        | _ => none
      else if isLowSurrogate unit then none
      else (stringBody s).map fun (text, rest) => (Char.ofNat unit :: text, rest)
  | '\\' :: c :: s =>
    match escapedChar? c with
    | some x => (stringBody s).map fun (text, rest) => (x :: text, rest)
    | none => none
  | c :: s =>
    if c.toNat < 0x20 || c = '\\' then none
    else (stringBody s).map fun (text, rest) => (c :: text, rest)

/-- The body of a string is read up to and with its closing quote. -/
theorem length_lt_of_stringBody {s text rest : List Char}
    (h : stringBody s = some (text, rest)) : rest.length < s.length := by
  fun_induction stringBody s generalizing text with
  | case1 => simp at h
  | case2 s =>
    obtain ⟨rfl, rfl⟩ := Prod.mk.injEq .. ▸ Option.some.inj h
    simp
  | case3 | case4 | case6 | case7 | case8 | case11 | case12 => simp at h
  | case5 | case9 | case10 | case13 =>
    rename_i ih
    obtain ⟨⟨t, r⟩, hb, he⟩ := Option.map_eq_some_iff.1 h
    obtain ⟨rfl, rfl⟩ := Prod.mk.injEq .. ▸ he
    have := ih hb
    simp only [List.length_cons]
    omega

/-- A string with its quotes. Two escapes that denote the halves of a surrogate pair make one
    character; half a pair makes none. -/
def string? (s : List Char) : Option (Parsed String s) :=
  match s with
  | '"' :: r =>
    match h : stringBody r with
    | some (text, rest) =>
      some ⟨String.ofList text, rest, by
        have := length_lt_of_stringBody h
        simp only [List.length_cons]
        omega⟩
    | none => none
  | _ => none

end RuleGraph.Json
