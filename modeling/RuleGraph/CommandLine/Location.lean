import RuleGraph.Address.Host
import RuleGraph.Decimal.Digits

namespace RuleGraph.CommandLine

/-- A control character or a space, which do not count at the ends of an address. -/
def isAddressBlank (c : Char) : Bool :=
  c.toNat ≤ 0x20

/-- The characters of an address that count. -/
def addressText (location : String) : List Char :=
  let s := location.toList.dropWhile isAddressBlank
  let s := (s.reverse.dropWhile isAddressBlank).reverse
  s.filter fun c => c ∉ ['\t', '\n', '\r']

/-- What follows the scheme of web pages, in any case. -/
def afterScheme? (s : List Char) : Option (List Char) :=
  let name := String.ofList ((s.takeWhile (· ≠ ':')).map Char.toLower)
  match s.dropWhile (· ≠ ':') with
  | ':' :: rest => if name ∈ ["http", "https"] then some rest else none
  | _ => none

/-- A slash in either direction. -/
def isSlash (c : Char) : Bool :=
  c = '/' || c = '\\'

/-- The part of an address that names a machine. -/
def authority (s : List Char) : List Char :=
  (s.dropWhile isSlash).takeWhile fun c => !isSlash c && c ≠ '?' && c ≠ '#'

/-- What follows the last occurrence of a character, or everything if it does not occur. -/
def afterLast (mark : Char) (s : List Char) : List Char :=
  (s.reverse.takeWhile (· ≠ mark)).reverse

/-- The length of the name of a machine. It ends at a colon, but not between brackets. -/
def hostLength (inside : Bool) : List Char → Nat
  | [] => 0
  | c :: s =>
    if c = ':' ∧ !inside then 0
    else 1 + hostLength (c = '[' || (c ≠ ']' && inside)) s

/-- The name of a machine and the number of its socket, if one is given. -/
def splitSocket (s : List Char) : List Char × List Char :=
  let length := hostLength false s
  (s.take length, s.drop (length + 1))

/-- Whether a text is the number of a socket, or nothing. -/
def isSocketNumber (s : List Char) : Bool :=
  s.all isDigit && natOfDecimals s < Nat.pow 2 16

/-- Whether a location is the address of a web page. Everything else is taken for a path. -/
def isRemote (location : String) : Bool :=
  match afterScheme? (addressText location) with
  | none => false
  | some rest =>
    let (host, socket) := splitSocket (afterLast '@' (authority rest))
    Address.isHost host && isSocketNumber socket

end RuleGraph.CommandLine
