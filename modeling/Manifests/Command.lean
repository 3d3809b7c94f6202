import Manifests.Label
import Manifests.Object.Pod

/-! Commands written in labels. -/

namespace Manifests

namespace Command

def isBracket (c : Char) : Bool := c = '[' || c = ']'

def isQuoteOrSpace (c : Char) : Bool := c = '"' || c = '\'' || c = ' '

/-- The arguments between commas, without the brackets around the list and the quotes around
each; a line without a comma is one argument as it stands. -/
def parse (line : String) : List String :=
  if line = "" then []
  else if line.toList.contains ',' then
    (Text.pieces ',' (Text.trim (Text.trimWhere isBracket line.toList))).map fun part =>
      .ofList (Text.trimWhere isQuoteOrSpace (Text.trim part))
  else [line]

end Command

def defaultInitName : String := "init-service"

/-- The container that runs before the others, described by labels. -/
def Service.initContainer? (s : Service) : Option Container :=
  (filled (s.labels.get? Label.initImage)).map fun image =>
    { name := (filled (s.labels.get? Label.initName)).getD defaultInitName
      image
      command := ((s.labels.get? Label.initCommand).map Command.parse).getD [] }

end Manifests
