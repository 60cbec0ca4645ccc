import Roster.Error
import Roster.Table

/-!
# Files

The files of a working directory, and paths to them. A path is a text in which slashes part names;
empty names and single dots lead nowhere, and a final slash or dot asks for a directory.
-/

namespace Roster

/-! ## Paths -/

namespace Path

/-- The names in a path, without those that lead nowhere. -/
def names (path : String) : List String :=
  (path.splitOn "/").filter fun n => n != "" && n != "."

/-- The name of the file that a path leads to, if it leads to one by name. -/
def fileName? (path : String) : Option String :=
  (names path).getLast?.filter (· != "..")

/-- What follows the last dot of a file name that does not start with it. -/
def extension? (path : String) : Option String :=
  (fileName? path).bind fun name =>
    let afterDot := name.toList.reverse.takeWhile (· != '.')
    if afterDot.length + 1 < name.length then some (String.ofList afterDot.reverse) else none

def asksForDirectory (path : String) : Bool :=
  (path.splitOn "/").getLast?.any fun n => n == "" || n == "." || n == ".."

end Path

/-! ## Files -/

inductive DiskEntry where
  | file (content : ByteArray)
  | directory

/-- What stands under each name in the working directory. -/
abbrev Disk := Table DiskEntry

namespace Disk

/-- Puts something under a name. A file takes the place of another file, and nothing else makes
room. -/
def write? (disk : Disk) (name : String) (entry : DiskEntry) : Option Disk :=
  match disk.get? name, entry with
  | none, _ => some (disk.set name entry)
  | some (.file _), .file _ => some (disk.set name entry)
  | _, _ => none

def remove? (disk : Disk) (name : String) : Option Disk :=
  match disk.get? name with
  | some (.file _) => some (disk.erase name)
  | _ => none

inductive Refusal where
  | missing
  | notDirectory
  | isDirectory
  | notText

def Refusal.message : Refusal → String
  | missing => "No such file or directory (os error 2)"
  | notDirectory => "Not a directory (os error 20)"
  | isDirectory => "Is a directory (os error 21)"
  | notText => "stream did not contain valid UTF-8"

def read (disk : Disk) (path : String) : Except Refusal String :=
  if path.isEmpty then .error .missing
  else match Path.names path with
    | [] => .error .isDirectory
    | name :: below =>
      match disk.get? name with
      | none =>
        if name = ".." && below.all (· == "..") then .error .isDirectory else .error .missing
      | some .directory => if below.isEmpty then .error .isDirectory else .error .missing
      | some (.file content) =>
        if !below.isEmpty || Path.asksForDirectory path then .error .notDirectory
        else match String.fromUTF8? content with
          | some text => .ok text
          | none => .error .notText

end Disk

def Disk.Refusal.toError (r : Refusal) : RoutingError := .io r.message

end Roster
