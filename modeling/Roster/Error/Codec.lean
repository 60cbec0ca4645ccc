import Roster.Document.Decoder
import Roster.Error

/-!
# Error codes in documents
-/

namespace Roster.ErrorCode

open Document

/-- A code as a node: its name. -/
def toNode (c : ErrorCode) : Node := .ofText c.name

def ofNode? (c : Convention) (node : Node) : Option ErrorCode :=
  node.choose? c (all.map fun code => (code.name, code))

end Roster.ErrorCode
