import Roster.Registry.Listing
import Roster.Registry.State

/-!
# Registries in files

A registry whose members stand in a document. A reload reads the document and commits the members
of every service that has members or is listed; if the document cannot be read, nothing changes.
When the document is watched, a change of the file leaves a notice, and each notice leads to a
reload. Notices that wait already are enough when many changes come.
-/

namespace Roster

structure FileOptions where
  watch : Bool := false
  watchBuffer : Nat := 64

/-- A registry whose members stand in a document. -/
structure FileRegistry where
  path : String
  state : State
  /-- The file name that is watched, if one is. -/
  watched : Option String := none
  notices : Nat := 0

/-- Commits the members of services in turn, and returns the number of changes. -/
def State.commitAll (s : State) (listing : Listing) : List String → Nat × State
  | [] => (0, s)
  | service :: rest =>
    let (changes, s) := s.commitAddresses service ((listing.get? service).getD [])
    let (n, s) := s.commitAll listing rest
    (changes.length + n, s)

/-- The services that have members or are listed, sorted and each once. -/
def State.servicesWith (s : State) (listing : Listing) : List String :=
  (s.snapshots.keys ++ listing.keys.filter fun k => !s.snapshots.keys.contains k).mergeSort (· ≤ ·)

/-- Makes the members of every service those that are listed, and returns the number of changes. -/
def State.adopt (s : State) (listing : Listing) : Nat × State :=
  s.commitAll listing (s.servicesWith listing)

namespace FileRegistry

def noticeLimit : Nat := 16

/-- Reads the document and adopts its listing. Returns the number of changes, and the registry
after it. A registry whose document cannot be read stays as it is. -/
def load (r : FileRegistry) (disk : Disk) (mayBeBlank : Bool) :
    Except RoutingError Nat × FileRegistry :=
  match Listing.load disk r.path mayBeBlank with
  | .error e => (.error e, r)
  | .ok listing =>
    let (n, state) := r.state.adopt listing
    (.ok n, { r with state })

/-- Reads the document again. A blank document is refused. -/
def reload (r : FileRegistry) (disk : Disk) : Except RoutingError Nat × FileRegistry :=
  r.load disk false

def start (disk : Disk) (path : String) (buffer : Nat) : Except RoutingError FileRegistry :=
  let (answer, r) := ({ path, state := State.new buffer } : FileRegistry).load disk true
  answer.map fun _ => r

/-- Starts to watch the file. Background work needs a runtime to run on. -/
def watchFile (r : FileRegistry) (inRuntime : Bool) : Except RoutingError FileRegistry :=
  if !inRuntime then .error (.config "watching a file registry requires a tokio runtime")
  else match Path.fileName? r.path with
    | none => .error (.config "registry path has no file name")
    | some name => .ok { r with watched := some name }

def openFile (disk : Disk) (path : String) (options : FileOptions) (inRuntime : Bool) :
    Except RoutingError FileRegistry := do
  let r ← start disk path options.watchBuffer
  if options.watch then r.watchFile inRuntime else .ok r

/-- Notes that the file of a name was replaced or removed. -/
def notice (r : FileRegistry) (name : String) : FileRegistry :=
  if r.watched = some name then { r with notices := min (r.notices + 1) noticeLimit } else r

/-- Reloads for one notice. If the document cannot be read, the members stay. -/
def turn (r : FileRegistry) (disk : Disk) : FileRegistry :=
  match r.notices with
  | 0 => r
  | n + 1 => ({ r with notices := n }.reload disk).2

/-- Reloads for every notice that waits. -/
def settle (r : FileRegistry) (disk : Disk) : FileRegistry :=
  (List.range r.notices).foldl (fun r _ => r.turn disk) r

end FileRegistry

end Roster
