import Roster.Disk
import Roster.Document.Json
import Roster.Document.Toml
import Roster.Document.Yaml
import Roster.Text.Blank

/-!
# Registry documents

A registry document lists the addresses of each service under the service's name. The extension of
its path tells its notation.
-/

namespace Roster

/-- The addresses of each service. -/
abbrev Listing := Table (List String)

inductive ListingFormat where
  | yaml
  | json
  | toml
  deriving DecidableEq, Repr

namespace ListingFormat

/-- The notation of the document at a path. -/
def ofPath (path : String) : Except RoutingError ListingFormat :=
  let extension := (((Path.extension? path).getD "").toList.map Char.toLower)
  let extension := String.ofList extension
  if extension = "yaml" ∨ extension = "yml" then .ok .yaml
  else if extension = "json" then .ok .json
  else if extension = "toml" then .ok .toml
  else .error (.parse path ("unsupported registry file extension `" ++ extension ++ "`"))

def read? (format : ListingFormat) (text : String) : Option Listing :=
  match format with
  | yaml => Document.Yaml.read? text
  | json => (Document.Json.read? text).bind ofNode?
  | toml => (Document.Toml.read? text).bind ofNode?
where
  ofNode? : Document.Node → Option Listing :=
    Document.Node.tableOf? (Document.Node.listOf? Document.Node.text?)

end ListingFormat

/-- Reads the listing in the file at a path. A blank file is refused unless `mayBeBlank`, as it may
be on its way to be written anew. -/
def Listing.load (disk : Disk) (path : String) (mayBeBlank : Bool) :
    Except RoutingError Listing := do
  let format ← ListingFormat.ofPath path
  let text ← (disk.read path).mapError Disk.Refusal.toError
  if Text.allBlank text && !mayBeBlank then .error (.parse path "empty registry document")
  else if Text.allBlank text && format == .yaml then .ok Table.empty
  else match format.read? text with
    | some listing => .ok listing
    | none => .error (.parse path "malformed registry document")

end Roster
