import RuleGraph.Yaml.Scalar.Block
import RuleGraph.Yaml.Scalar.Plain
import RuleGraph.Yaml.Scalar.Quoted
import RuleGraph.Yaml.Tag

namespace RuleGraph.Yaml

/-- A place where a key may have started. -/
structure PossibleKey where
  /-- Whether the block around leaves nothing but a key. -/
  required : Bool
  /-- The number of tokens before it. -/
  index : Nat
  /-- Its line. -/
  line : Nat
  /-- Its column. -/
  column : Nat
  /-- The number of bytes before it on its line. -/
  offset : Nat

/-- The longest key, in bytes. -/
def maxKeyLength : Nat := 1024

/-- How far a source is read. Blocks open and close with the columns of what stands in them. A key
    may turn out to be one only when its colon comes, so the tokens that mark it are put in behind
    those that were there before it. -/
structure Scanner where
  /-- Where it goes on. -/
  cursor : Cursor
  /-- The tokens so far, the last one first. -/
  reversed : List Token := []
  /-- The number of tokens so far. -/
  count : Nat := 0
  /-- The column of the innermost block, `-1` outside of all blocks. -/
  indent : Int := -1
  /-- The columns of the blocks around that one. -/
  outerIndents : List Int := []
  /-- The possible key of the innermost level of brackets and braces. -/
  key : Option PossibleKey := none
  /-- The possible keys of the levels around that one. -/
  outerKeys : List (Option PossibleKey) := []
  /-- Whether a key may start here. -/
  keyAllowed : Bool := true

namespace Scanner

/-- Whether the scanner is inside brackets or braces. -/
def inFlow (scanner : Scanner) : Bool :=
  !scanner.outerKeys.isEmpty

/-- The scanner with one more token. -/
def emit (token : Token) (scanner : Scanner) : Scanner :=
  { scanner with reversed := token :: scanner.reversed, count := scanner.count + 1 }

/-- The scanner several characters on. -/
def skip (n : Nat) (scanner : Scanner) : Scanner :=
  { scanner with cursor := scanner.cursor.skip n }

/-- The scanner with tokens put in behind the first `index` ones. -/
def insertAt (index : Nat) (tokens : List Token) (scanner : Scanner) : Scanner :=
  let later := scanner.count - index
  { scanner with
    reversed :=
      scanner.reversed.take later ++ tokens.reverse ++ scanner.reversed.drop later
    count := scanner.count + tokens.length }

/-- The scanner with a further block around what comes, if it stands deeper than the others. -/
def openBlock (column : Nat) (scanner : Scanner) : Scanner :=
  { scanner with indent := column, outerIndents := scanner.indent :: scanner.outerIndents }

/-- Opens a block in the given column, unless there is one already or the scanner is inside
    brackets or braces. -/
def rollIndent (start : Token) (scanner : Scanner) : Scanner :=
  if !scanner.inFlow && scanner.indent < scanner.cursor.column then
    (scanner.openBlock scanner.cursor.column).emit start
  else scanner

/-- Closes the blocks that stand deeper than the given column, given the columns of the blocks
    around the innermost one. -/
def unrollBlocks (column : Int) (scanner : Scanner) : List Int → Scanner
  | [] => scanner
  | outer :: outers =>
    if column < scanner.indent then
      unrollBlocks column
        { scanner.emit .blockEnd with indent := outer, outerIndents := outers } outers
    else scanner

/-- Closes the blocks that stand deeper than the given column. Inside brackets and braces columns
    have no meaning. -/
def unrollIndent (column : Int) (scanner : Scanner) : Scanner :=
  if scanner.inFlow then scanner else scanner.unrollBlocks column scanner.outerIndents

/-- Gives up a possible key. A required one cannot be given up. -/
def dropKey? (scanner : Scanner) : Option Scanner :=
  match scanner.key with
  | some key => if key.required then none else some { scanner with key := none }
  | none => some scanner

/-- Remembers that a key may start here. -/
def saveKey? (scanner : Scanner) : Option Scanner :=
  if scanner.keyAllowed then
    let required := !scanner.inFlow && scanner.indent = scanner.cursor.column
    scanner.dropKey?.map fun scanner =>
      { scanner with
        key := some
          ⟨required, scanner.count, scanner.cursor.line, scanner.cursor.column,
            scanner.cursor.offset⟩ }
  else some scanner

/-- The possible key, unless it has become too long or lies on an earlier line; the outer option
    fails for a required one. -/
def refreshKey? (cursor : Cursor) : Option PossibleKey → Option (Option PossibleKey)
  | none => some none
  | some key =>
    if key.line < cursor.line || key.offset + maxKeyLength < cursor.offset then
      if key.required then none else some none
    else some (some key)

/-- Gives up all possible keys that can no longer be keys. -/
def refreshKeys? (scanner : Scanner) : Option Scanner := do
  let key ← refreshKey? scanner.cursor scanner.key
  let outerKeys ← scanner.outerKeys.mapM (refreshKey? scanner.cursor)
  return { scanner with key := key, outerKeys := outerKeys }

/-- A mark that only tells how the bytes of a source are ordered. -/
def orderMark : Char := '\ufeff'

/-- Goes over blanks, comments and line ends. A tab counts as a blank only where no key may start.
    Behind the end of a line a key may start. A mark for the order of bytes is skipped at the start
    of a line, where it counts as a column. -/
def skipTrivia (flow inComment keyAllowed : Bool) (cursor : Cursor) :
    List Char → Cursor × Bool
  | [] => ({ cursor with rest := [] }, keyAllowed)
  | c :: s =>
    if isBreak c then skipTrivia flow false (keyAllowed || !flow) (cursor.nextLine s) s
    else if inComment || c = ' ' || (c = '\t' && (flow || !keyAllowed)) ||
        (c = orderMark && cursor.column = 0) then
      skipTrivia flow inComment keyAllowed (cursor.behind c s) s
    else if c = '#' then skipTrivia flow true keyAllowed (cursor.behind c s) s
    else ({ cursor with rest := c :: s }, keyAllowed)

/-- Goes on to the next token, gives up keys that can no longer be keys, and closes the blocks that
    end before it. -/
def toNextToken? (scanner : Scanner) : Option Scanner :=
  let (cursor, keyAllowed) :=
    skipTrivia scanner.inFlow false scanner.keyAllowed scanner.cursor scanner.cursor.rest
  let scanner : Scanner := { scanner with cursor := cursor, keyAllowed := keyAllowed }
  scanner.refreshKeys?.map fun scanner => scanner.unrollIndent scanner.cursor.column

/-- The end of the source: all blocks end, and a required key is missing. -/
def finish? (scanner : Scanner) : Option (List Token) :=
  ((scanner.unrollIndent (-1)).dropKey?).map fun scanner => scanner.reversed.reverse

/-- A directive. -/
def fetchDirective? (s : List Char) (scanner : Scanner) : Option Scanner := do
  let scanner ← (scanner.unrollIndent (-1)).dropKey?
  let (token, length) ← directive? s
  return ({ scanner with keyAllowed := false }.skip (length + 1)).emit token

/-- A mark at the start or the end of a document. -/
def fetchMark? (token : Token) (scanner : Scanner) : Option Scanner := do
  let scanner ← (scanner.unrollIndent (-1)).dropKey?
  return ({ scanner with keyAllowed := false }.skip 3).emit token

/-- A bracket or brace that opens. -/
def fetchFlowStart? (token : Token) (scanner : Scanner) : Option Scanner := do
  let scanner ← scanner.saveKey?
  return ({ scanner with
    key := none, outerKeys := scanner.key :: scanner.outerKeys, keyAllowed := true }.skip 1).emit
      token

/-- A bracket or brace that closes. -/
def fetchFlowEnd? (token : Token) (scanner : Scanner) : Option Scanner := do
  let scanner ← scanner.dropKey?
  let scanner :=
    match scanner.outerKeys with
    | key :: outerKeys => { scanner with key := key, outerKeys := outerKeys }
    | [] => scanner
  return ({ scanner with keyAllowed := false }.skip 1).emit token

/-- A comma. -/
def fetchFlowEntry? (scanner : Scanner) : Option Scanner := do
  let scanner ← scanner.dropKey?
  return ({ scanner with keyAllowed := true }.skip 1).emit .flowEntry

/-- The sign of an item of a block sequence. -/
def fetchBlockEntry? (scanner : Scanner) : Option Scanner := do
  if !scanner.inFlow && !scanner.keyAllowed then none
  else
    let scanner ← (scanner.rollIndent .blockSequenceStart).dropKey?
    return ({ scanner with keyAllowed := true }.skip 1).emit .blockEntry

/-- The sign of a key that is not written in one line. -/
def fetchKey? (scanner : Scanner) : Option Scanner := do
  if !scanner.inFlow && !scanner.keyAllowed then none
  else
    let scanner ← (scanner.rollIndent .blockMappingStart).dropKey?
    return ({ scanner with keyAllowed := !scanner.inFlow }.skip 1).emit .key

/-- The colon behind a key. If the key was only a possible one, it becomes one now, and a block of
    fields may start before it. -/
def fetchValue? (scanner : Scanner) : Option Scanner :=
  match scanner.key with
  | some key =>
    let opens := !scanner.inFlow && scanner.indent < key.column
    let scanner :=
      scanner.insertAt key.index (if opens then [.blockMappingStart, .key] else [.key])
    let scanner := if opens then scanner.openBlock key.column else scanner
    some (({ scanner with key := none, keyAllowed := false }.skip 1).emit .value)
  | none =>
    if !scanner.inFlow && !scanner.keyAllowed then none
    else
      let scanner := scanner.rollIndent .blockMappingStart
      some (({ scanner with keyAllowed := !scanner.inFlow }.skip 1).emit .value)

/-- An anchor or alias. -/
def fetchAnchor? (token : String → Token) (s : List Char) (scanner : Scanner) :
    Option Scanner := do
  let scanner ← scanner.saveKey?
  let (name, length) ← anchorName? s
  return ({ scanner with keyAllowed := false }.skip (length + 1)).emit (token name)

/-- A tag. -/
def fetchTag? (scanner : Scanner) : Option Scanner := do
  let scanner ← scanner.saveKey?
  let (tag, length) ← tag? scanner.cursor.rest
  if tagEndsBefore scanner.inFlow (scanner.cursor.rest.drop length) then
    return ({ scanner with keyAllowed := false }.skip length).emit (.tag tag)
  else none

/-- A block scalar. -/
def fetchBlockScalar? (folds : Bool) (s : List Char) (scanner : Scanner) : Option Scanner := do
  let scanner ← scanner.dropKey?
  let (text, length) ← blockScalar? folds scanner.indent s
  return ({ scanner with keyAllowed := true }.skip (length + 1)).emit (.scalar false text)

/-- A scalar in quotes. -/
def fetchQuoted? (quoted : Option QuotedScalar) (scanner : Scanner) : Option Scanner := do
  let scanner ← scanner.saveKey?
  let (text, length) ← quoted
  return ({ scanner with keyAllowed := false }.skip length).emit (.scalar false text)

/-- A plain scalar. If it reaches over the end of a line, a key may start behind it. -/
def fetchPlain? (scanner : Scanner) : Option Scanner := do
  let scanner ← scanner.saveKey?
  let scalar ← plainScalar? ⟨scanner.inFlow, scanner.indent + 1⟩ scanner.cursor.column
    scanner.cursor.rest
  return ({ scanner with keyAllowed := scalar.crossesLine }.skip scalar.length).emit
    (.scalar true scalar.text)

/-- A sign that cannot start a plain scalar. -/
def isIndicator (c : Char) : Bool :=
  c ∈ ['-', '?', ':', ',', '[', ']', '\x7b', '\x7d', '#', '&', '*', '!', '|', '>', '\'', '"', '%',
    '@', '\x60']

/-- Whether a plain scalar may start here. A dash may if no blank follows it, and outside of
    brackets and braces so may a question mark and a colon. -/
def startsPlain (flow : Bool) (c : Char) (s : List Char) : Bool :=
  (!isSpaceOrTab c && !isBreak c && !isIndicator c) ||
    (c = '-' && !(s.head?.map isSpaceOrTab).getD false) ||
    (!flow && (c = '?' || c = ':') && !atSpace s)

/-- The next token, of a source that goes on with `c` and `s`. -/
def fetch? (c : Char) (s : List Char) (scanner : Scanner) : Option Scanner :=
  let lineStart := scanner.cursor.column = 0
  let flow := scanner.inFlow
  if lineStart && c = '%' then scanner.fetchDirective? s
  else if lineStart && atDocumentStart (c :: s) then scanner.fetchMark? .documentStart
  else if lineStart && atDocumentEnd (c :: s) then scanner.fetchMark? .documentEnd
  else if c = '[' then scanner.fetchFlowStart? .flowSequenceStart
  else if c = '\x7b' then scanner.fetchFlowStart? .flowMappingStart
  else if c = ']' then scanner.fetchFlowEnd? .flowSequenceEnd
  else if c = '\x7d' then scanner.fetchFlowEnd? .flowMappingEnd
  else if c = ',' then scanner.fetchFlowEntry?
  else if c = '-' && atSpace s then scanner.fetchBlockEntry?
  else if c = '?' && (flow || atSpace s) then scanner.fetchKey?
  else if c = ':' && (flow || atSpace s) then scanner.fetchValue?
  else if c = '*' then scanner.fetchAnchor? .alias s
  else if c = '&' then scanner.fetchAnchor? .anchor s
  else if c = '!' then scanner.fetchTag?
  else if c = '|' && !flow then scanner.fetchBlockScalar? false s
  else if c = '>' && !flow then scanner.fetchBlockScalar? true s
  else if c = '\'' then scanner.fetchQuoted? (singleQuoted? s)
  else if c = '"' then scanner.fetchQuoted? (doubleQuoted? s)
  else if startsPlain flow c s then scanner.fetchPlain?
  else none

/-- All tokens from here on. Every token takes at least one character; the test for it makes plain
    that the scanner comes to an end. -/
def tokens? (scanner : Scanner) : Option (List Token) :=
  match scanner.toNextToken? with
  | none => none
  | some next =>
    match next.cursor.rest with
    | [] => next.finish?
    | c :: s =>
      match next.fetch? c s with
      | none => none
      | some fetched =>
        if fetched.cursor.rest.length < scanner.cursor.rest.length then fetched.tokens? else none
termination_by scanner.cursor.rest.length

end Scanner

/-- The tokens of a source, if all its characters are allowed and all of it makes tokens. -/
def tokensOf? (source : List Char) : Option (List Token) :=
  if source.all isAllowed then
    ({ cursor := ⟨unifyBreaks source, 0, 0, 0⟩ : Scanner }).tokens?
  else none

end RuleGraph.Yaml
