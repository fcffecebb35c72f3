namespace RuleGraph.Text

/-- What a character means for the places at which a line may break, in the Unicode line breaking
    algorithm. A class holds what the rules tell apart, so quotation marks and opening brackets have
    several. -/
inductive BreakClass where
  /-- Ends a line, such as a form feed. -/
  | mandatory
  /-- Ends a line, unless a line feed follows. -/
  | carriageReturn
  /-- Ends a line. -/
  | lineFeed
  /-- Ends a line. -/
  | nextLine
  /-- The space, behind which a line may break. -/
  | space
  /-- Allows a break where nothing is seen. -/
  | zeroWidthSpace
  /-- Forbids a break on both sides where nothing is seen. -/
  | wordJoiner
  /-- Forbids a break on both sides, such as the no-break space. -/
  | glue
  /-- Joins pictures to one picture. -/
  | joiner
  /-- Stands on the character before it. -/
  | mark
  /-- Closes what an opening mark has opened. -/
  | closing
  /-- Closes a parenthesis or a bracket, which may stand inside a word. -/
  | closingParenthesis
  /-- An exclamation or question mark. -/
  | exclamation
  /-- Stands between the digits of a number, such as a comma. -/
  | separator
  /-- The slash. -/
  | slash
  /-- Opens a bracket. -/
  | opening
  /-- Opens a bracket in the scripts of East Asia. -/
  | wideOpening
  /-- A quotation mark that may open and close. -/
  | quotation
  /-- A quotation mark that opens, as a rule. -/
  | initialQuotation
  /-- A quotation mark that closes, as a rule. -/
  | finalQuotation
  /-- Does not begin a line in the scripts of East Asia. -/
  | nonStarter
  /-- A long dash, with a break on both sides. -/
  | dash
  /-- Allows a break behind it. -/
  | breakAfter
  /-- Allows a break in front of it. -/
  | breakBefore
  /-- The hyphen that is also a minus sign. -/
  | hyphen
  /-- Stands for an object in the text. -/
  | object
  /-- Dots that belong together. -/
  | leader
  /-- A letter, or anything without a rule of its own. -/
  | alphabetic
  /-- The circle that carries a mark which is shown alone. -/
  | dottedCircle
  /-- A letter of Hebrew. -/
  | hebrew
  /-- A digit. -/
  | numeric
  /-- Stands before numbers, such as a currency sign. -/
  | beforeNumber
  /-- Stands after numbers, such as a percent sign. -/
  | afterNumber
  /-- A word of its own. -/
  | ideograph
  /-- A picture whose colour may be chosen. -/
  | emojiBase
  /-- Chooses the colour of a picture. -/
  | emojiModifier
  /-- A first consonant of Hangul. -/
  | leadingJamo
  /-- A vowel of Hangul. -/
  | vowelJamo
  /-- A final consonant of Hangul. -/
  | trailingJamo
  /-- A syllable of Hangul that ends in a vowel. -/
  | openSyllable
  /-- A syllable of Hangul that ends in a consonant. -/
  | closedSyllable
  /-- Half of a flag. -/
  | regional
  /-- A consonant of a script that stacks consonants. -/
  | aksara
  /-- A consonant that begins a syllable of its own. -/
  | aksaraStart
  /-- Stands before a consonant and belongs to it. -/
  | beforeAksara
  /-- Joins two consonants to one syllable. -/
  | virama
  /-- Takes the vowel from the consonant before it. -/
  | finalVirama
  deriving Repr, DecidableEq

namespace BreakClass

/-- A character that ends a line. -/
def endsLine (kind : BreakClass) : Bool :=
  kind ∈ [mandatory, carriageReturn, lineFeed, nextLine]

/-- A character that joins the one before it instead of standing for itself. -/
def attaches (kind : BreakClass) : Bool :=
  kind ∈ [mark, joiner]

/-- A character to which marks may attach. -/
def carries (kind : BreakClass) : Bool :=
  !kind.endsLine && kind ∉ [space, zeroWidthSpace]

/-- What a character means where it has nothing to attach to. -/
def alone (kind : BreakClass) : BreakClass :=
  if kind.attaches then alphabetic else kind

end BreakClass

end RuleGraph.Text
