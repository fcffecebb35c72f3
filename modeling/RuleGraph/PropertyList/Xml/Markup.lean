import RuleGraph.Parsed
import RuleGraph.PropertyList.Xml.DocumentType
import RuleGraph.Text.Split

namespace RuleGraph.PropertyList.Xml

/-- A piece of an XML file. -/
inductive Piece where
  /-- The declaration that a file is XML. -/
  | declaration
  /-- A tag that opens an element. -/
  | opening (name : List Char)
  /-- A tag that closes an element. -/
  | closing (name : List Char)
  /-- Text without markup. -/
  | text (content : List Char)
  /-- A reference to a character by a name or a number. -/
  | reference (name : List Char)
  /-- What cannot be read. Nothing follows it. -/
  | broken
  deriving Repr, DecidableEq

/-- A blank of XML. -/
def isSpace (c : Char) : Bool :=
  c ∈ [' ', '\t', '\n', '\r']

theorem length_lt_of_splitAtMark {mark s before after : List Char} (hmark : mark ≠ [])
    (h : Text.splitAtMark mark s = some (before, after)) : after.length < s.length := by
  have hlength := congrArg List.length (Text.append_of_splitAtMark h)
  have hpos := List.length_pos_iff.2 hmark
  simp only [List.length_append] at hlength
  omega

/-- What stands before a mark, read together with the mark. -/
def before? (mark : List Char) (hmark : mark ≠ []) (s : List Char) :
    Option (Parsed (List Char) s) :=
  match h : Text.splitAtMark mark s with
  | none => none
  | some (before, after) => some ⟨before, after, length_lt_of_splitAtMark hmark h⟩

/-- The inside of a tag and what follows its end. An end mark inside quotes does not count. -/
def tagBody : Option Char → List Char → Option (List Char × List Char)
  | _, [] => none
  | none, '>' :: s => some ([], s)
  | quote, c :: s =>
    (tagBody (quoteBehind quote c) s).map fun (body, rest) => (c :: body, rest)

theorem length_lt_of_tagBody {quote : Option Char} {s body rest : List Char}
    (h : tagBody quote s = some (body, rest)) : rest.length < s.length := by
  fun_induction tagBody quote s generalizing body with
  | case1 => simp at h
  | case2 s =>
    obtain ⟨rfl, rfl⟩ := Prod.mk.injEq .. ▸ Option.some.inj h
    simp
  | case3 _ _ _ _ ih =>
    obtain ⟨⟨b, r⟩, hb, he⟩ := Option.map_eq_some_iff.1 h
    obtain ⟨rfl, rfl⟩ := Prod.mk.injEq .. ▸ he
    have := ih hb
    simp only [List.length_cons]
    omega

/-- A comment, from behind `<!--`. -/
def comment? (s : List Char) : Option (Parsed (List Piece) s) :=
  (before? ['-', '-', '>'] (by simp) s).map fun p => p.map fun _ => []

/-- A marked section, from behind `<![`. -/
def section? (s : List Char) : Option (Parsed (List Piece) s) :=
  match s with
  | 'C' :: 'D' :: 'A' :: 'T' :: 'A' :: '[' :: r =>
    (before? [']', ']', '>'] (by simp) r).map fun p =>
      (p.map fun _ => []).widen (by simp only [List.length_cons]; omega)
  | _ => none

/-- A declaration of a document type, from behind `<!`. It gives a name to the type. -/
def documentType? (s : List Char) : Option (Parsed (List Piece) s) :=
  let body := s.drop 7
  if (s.take 7).map Char.toUpper = ['D', 'O', 'C', 'T', 'Y', 'P', 'E'] ∧
      (body.dropWhile isSpace).head? ≠ some '>' then
    match h : typeRest? (.head none) body with
    | none => none
    | some rest =>
      some ⟨[], rest, Nat.lt_of_lt_of_le (length_lt_of_typeRest? h)
        (List.drop_sublist 7 s).length_le⟩
  else none

/-- An instruction, from behind `<?`. Only the declaration at the head of a file means anything. -/
def instruction? (s : List Char) : Option (Parsed (List Piece) s) :=
  (before? ['?', '>'] (by simp) s).map fun p =>
    p.map fun body => if body.takeWhile (!isSpace ·) = ['x', 'm', 'l'] then [.declaration] else []

/-- A tag that closes an element, from behind `</`. -/
def closingTag? (s : List Char) : Option (Parsed (List Piece) s) :=
  (before? ['>'] (by simp) s).map fun p =>
    p.map fun body => [.closing (body.reverse.dropWhile isSpace |>.reverse)]

/-- The pieces of a tag that opens an element, by its inside. A tag with a slash at its end closes
    the element too. -/
def openingPieces (body : List Char) : List Piece :=
  if body.getLast? = some '/' then
    let name := body.dropLast.takeWhile (!isSpace ·)
    [.opening name, .closing name]
  else [.opening (body.takeWhile (!isSpace ·))]

/-- A tag that opens an element, from behind `<`. -/
def openingTag? (s : List Char) : Option (Parsed (List Piece) s) :=
  match h : tagBody none s with
  | none => none
  | some (body, rest) => some ⟨openingPieces body, rest, length_lt_of_tagBody h⟩

/-- What begins with `<`, from behind it. -/
def markup? (s : List Char) : Option (Parsed (List Piece) s) :=
  match s with
  | '!' :: '-' :: '-' :: r =>
    (comment? r).map fun p => p.behind.behind.behind
  | '!' :: '[' :: r =>
    (section? r).map fun p => p.behind.behind
  | '!' :: r => (documentType? r).map fun p => p.behind
  | '?' :: r => (instruction? r).map fun p => p.behind
  | '/' :: r => (closingTag? r).map fun p => p.behind
  | s => openingTag? s

/-- A character of text, and of the name in a reference. -/
def isTextChar (c : Char) : Bool :=
  c ≠ '<' && c ≠ '&'

/-- A reference, from behind `&`. -/
def reference? (s : List Char) : Option (Parsed (List Piece) s) :=
  match h : s.dropWhile (fun c => isTextChar c && c ≠ ';') with
  | ';' :: rest =>
    some ⟨[.reference (s.takeWhile fun c => isTextChar c && c ≠ ';')], rest, by
      have := (List.dropWhile_sublist (fun c => isTextChar c && c ≠ ';') (l := s)).length_le
      rw [h, List.length_cons] at this
      omega⟩
  | _ => none

/-- The pieces at the front of a file that is not at its end. -/
def next? (c : Char) (s : List Char) : Option (Parsed (List Piece) (c :: s)) :=
  if c = '<' then (markup? s).map fun p => p.behind
  else if c = '&' then (reference? s).map fun p => p.behind
  else
    some ⟨[.text (c :: s.takeWhile isTextChar)], s.dropWhile isTextChar, by
      have := (List.dropWhile_sublist isTextChar (l := s)).length_le
      simp only [List.length_cons]
      omega⟩

/-- The pieces of a file, up to the first that cannot be read: tags, references and the text between
    them. Comments, instructions and marked sections leave nothing behind. -/
def pieces (s : List Char) : List Piece :=
  match s with
  | [] => []
  | c :: r =>
    match next? c r with
    | none => [.broken]
    | some p =>
      p.value ++ pieces p.rest
termination_by s.length
decreasing_by exact p.shorter

end RuleGraph.PropertyList.Xml
