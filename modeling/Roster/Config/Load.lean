import Roster.Config.Codec
import Roster.Disk
import Roster.Document.Toml

/-!
# Reading the configuration

The configuration is a TOML document, given as a text or as a file.
-/

namespace Roster.RoutingConfig

def malformed : String := "malformed configuration"

def ofToml? (text : String) : Option RoutingConfig :=
  (Document.Toml.read? text).bind (ofNode? Document.Toml.convention)

def ofToml (text : String) : Except RoutingError RoutingConfig :=
  match ofToml? text with
  | some c => .ok c
  | none => .error (.config malformed)

/-- Reads the configuration from the file at a path. -/
def load (disk : Disk) (path : String) : Except RoutingError RoutingConfig := do
  let text ← (disk.read path).mapError Disk.Refusal.toError
  match ofToml? text with
  | some c => .ok c
  | none => .error (.parse path malformed)

end Roster.RoutingConfig
