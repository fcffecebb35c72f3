import RuleGraph.PropertyList.Binary
import RuleGraph.PropertyList.OldStyle
import RuleGraph.PropertyList.Xml.Reader

namespace RuleGraph.PropertyList

/-- The first bytes of a binary property list. -/
def binaryMark : ByteArray :=
  "bplist00".toUTF8

/-- The document in a property list that is no binary one. -/
def parseText? (input : ByteArray) : Option Document :=
  match Xml.stepsOfFile input with
  | .broken :: _ => (OldStyle.events? (charsOfBytes input)).bind documentOfEvents?
  | steps => (Xml.eventsOfSteps? steps).bind documentOfEvents?

/-- The document in a property list of any kind. Files too short for the mark of a binary one are
    none. A file that turns out to be no XML before it has said anything is read in the old style.
    -/
def parse? (input : ByteArray) : Option Document :=
  if input.size < binaryMark.size then none
  else if (input.extract 0 binaryMark.size).data = binaryMark.data then Binary.document? input
  else parseText? input

end RuleGraph.PropertyList
