import RuleGraph.Text.LineBreak.Table

namespace RuleGraph.Text

/-- A character with the marks that stand on it, which no break separates. -/
structure Cluster where
  kind : BreakClass
  /-- The number of its marks. -/
  marks : Nat
  /-- It ends in a joiner, which ties it to what follows. -/
  joins : Bool
  deriving Repr, DecidableEq

/-- The clusters of a line that is given by the classes of its characters. -/
def clusters : List BreakClass → List Cluster
  | [] => []
  | kind :: kinds =>
    let marks := if kind.alone.carries then kinds.takeWhile BreakClass.attaches else []
    ⟨kind.alone, marks.length, (kind :: marks).getLast? = some .joiner⟩ ::
      clusters (kinds.drop marks.length)
termination_by kinds => kinds.length

/-- Opening brackets of all scripts. -/
def BreakClass.opens (kind : BreakClass) : Bool :=
  kind ∈ [opening, wideOpening]

/-- Closing brackets of all scripts. -/
def BreakClass.closes (kind : BreakClass) : Bool :=
  kind ∈ [closing, closingParenthesis]

/-- Quotation marks of all kinds. -/
def BreakClass.quotes (kind : BreakClass) : Bool :=
  kind ∈ [quotation, initialQuotation, finalQuotation]

/-- Letters of the scripts that put blanks between words. -/
def BreakClass.isLetter (kind : BreakClass) : Bool :=
  kind ∈ [alphabetic, dottedCircle, hebrew]

/-- Characters that are words of their own, pictures among them. -/
def BreakClass.isIdeographic (kind : BreakClass) : Bool :=
  kind ∈ [ideograph, emojiBase, emojiModifier]

/-- Syllables of Hangul and their parts. -/
def BreakClass.isHangul (kind : BreakClass) : Bool :=
  kind ∈ [leadingJamo, vowelJamo, trailingJamo, openSyllable, closedSyllable]

/-- What a virama may stand on. -/
def BreakClass.isAksara (kind : BreakClass) : Bool :=
  kind ∈ [aksara, aksaraStart, dottedCircle]

/-- Whether a quotation mark that opens, as a rule, does so here: what stands before it, if
    anything does, is no word. -/
def opensQuotation (before : Option BreakClass) : Bool :=
  before.all fun kind => kind.endsLine || kind.opens || kind.quotes ||
    kind ∈ [.glue, .space, .zeroWidthSpace]

/-- Whether a quotation mark that closes, as a rule, does so here: what stands behind it, if
    anything does, begins no word. -/
def closesQuotation (behind : Option BreakClass) : Bool :=
  behind.all fun kind => kind.endsLine || kind.closes || kind.quotes ||
    kind ∈ [.space, .glue, .wordJoiner, .exclamation, .separator, .slash, .zeroWidthSpace]

/-- Whether no break separates `next` from what `last` begins, even if blanks stand between them.
    Here `before` stands before `last`, and `behind` stands behind `next`. -/
def holdsOverSpaces (before : Option BreakClass) (last next : BreakClass)
    (behind : Option BreakClass) : Bool :=
  next.closes || next ∈ [.exclamation, .separator, .slash] || last.opens ||
    (last = .initialQuotation && opensQuotation before) ||
    (next = .finalQuotation && closesQuotation behind) ||
    (last.closes && next = .nonStarter) ||
    (last = .dash && next = .dash)

/-- Whether two neighbours belong together as parts of a word or a number, whatever stands around
    them. -/
def holds (last next : BreakClass) : Bool :=
  -- What begins no line, and what ends none.
  next ∈ [.breakAfter, .hyphen, .nonStarter, .leader] || last = .breakBefore ||
  (last = .slash && next = .hebrew) ||
  -- Words and numbers.
  (last.isLetter && (next.isLetter || next ∈ [.numeric, .beforeNumber, .afterNumber])) ||
  (last ∈ [.numeric, .beforeNumber, .afterNumber, .separator] && next.isLetter) ||
  (last = .beforeNumber && (next.isIdeographic || next.isHangul)) ||
  ((last.isIdeographic || last.isHangul) && next = .afterNumber) ||
  ((last.closes || last = .numeric) && next ∈ [.beforeNumber, .afterNumber]) ||
  (last ∈ [.beforeNumber, .afterNumber] && next.opens) ||
  (last ∈ [.beforeNumber, .afterNumber, .hyphen, .separator, .numeric, .slash] &&
    next = .numeric) ||
  -- Brackets inside words.
  ((last.isLetter || last = .numeric) && next = .opening) ||
  (last = .closingParenthesis && (next.isLetter || next = .numeric)) ||
  -- Syllables.
  (last = .leadingJamo &&
    next ∈ [.leadingJamo, .vowelJamo, .openSyllable, .closedSyllable]) ||
  (last ∈ [.vowelJamo, .openSyllable] && next ∈ [.vowelJamo, .trailingJamo]) ||
  (last ∈ [.trailingJamo, .closedSyllable] && next = .trailingJamo) ||
  (last = .beforeAksara && next.isAksara) ||
  (last.isAksara && next ∈ [.virama, .finalVirama]) ||
  -- Pictures.
  (last = .emojiBase && next = .emojiModifier)

/-- Whether two neighbours belong together because of what stands before or behind them: a hyphen
    behind a Hebrew letter, consonants that a virama joins, and the second half of a flag. -/
def holdsHere (before : List Cluster) (last next : BreakClass) (behind : Option BreakClass) :
    Bool :=
  let earlier := before.head?.map (·.kind)
  (earlier = some .hebrew && last ∈ [.hyphen, .breakAfter]) ||
  (earlier.any BreakClass.isAksara && last = .virama && next ∈ [.aksara, .dottedCircle]) ||
  (last.isAksara && next.isAksara && behind = some .finalVirama) ||
  (last = .regional && next = .regional &&
    (before.takeWhile fun cluster => cluster.kind = .regional).length % 2 = 0)

/-- Whether a line may break before a cluster, where `before` stands before it, the nearest cluster
    first, and `behind` is the class of what stands behind it. -/
def mayBreak (before : List Cluster) (next : BreakClass) (behind : Option BreakClass) : Bool :=
  match before, before.dropWhile fun cluster => cluster.kind = .space with
  | [], _ => false
  | last :: earlier, words =>
    let kind := last.kind
    let word := words.head?.map (·.kind)
    if kind.endsLine then kind ≠ .carriageReturn || next ≠ .lineFeed
    else if next.endsLine || next ∈ [.space, .zeroWidthSpace] then false
    else if word = some .zeroWidthSpace then true
    else if last.joins || kind ∈ [.wordJoiner, .glue] || next = .wordJoiner then false
    else if next = .glue && kind ∉ [.space, .breakAfter, .hyphen] then false
    else if holdsOverSpaces (words[1]?.map (·.kind)) (word.getD .space) next behind then false
    else if kind = .space then true
    else if kind.quotes || next.quotes then false
    else if kind = .object || next = .object then true
    else !holds kind next && !holdsHere earlier kind next behind

/-- For each character of some clusters, whether a line may break before it. -/
def breaksFrom (before : List Cluster) : List Cluster → List Bool
  | [] => []
  | cluster :: behind =>
    mayBreak before cluster.kind (behind.head?.map (·.kind)) ::
      (List.replicate cluster.marks false ++ breaksFrom (cluster :: before) behind)

/-- For each character of a line, whether the line may break before it. Marks first join the
    characters that they stand on; the rules then decide between one such cluster and the next, by
    what stands before and behind. -/
def breaks (s : List Char) : List Bool :=
  breaksFrom [] (clusters (s.map BreakClass.ofChar))

end RuleGraph.Text
