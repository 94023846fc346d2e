/-!
# Path names

A path is written with its parts between slashes. Empty parts and single dots say nothing and are
left out when a path is shown.
-/

namespace PeFacts.PathName

/-- The parts of a path that say something. -/
def parts (path : String) : List String :=
  ((path.toList.splitOn '/').map String.ofList).filter fun part => part != "" && part != "."

/-- What an absolute path begins with. Exactly two slashes are kept. -/
def root (path : String) : String :=
  match path.toList.takeWhile (· == '/') with
  | [] => ""
  | ['/', '/'] => "//"
  | _ => "/"

/-- The path has only characters that names can have. -/
def isPossible (path : String) : Bool := !path.toList.contains '\x00'

/-- The user in whose home directory the path begins, and the parts after that. Without a name it is
whoever asks. -/
def home? (path : String) : Option (String × List String) :=
  match root path, parts path with
  | "", first :: rest =>
    match first.toList with
    | '~' :: name => some (String.ofList name, rest)
    | _ => none
  | _, _ => none

/-- The path as it is shown. -/
def normal (path : String) : String :=
  let text := root path ++ "/".intercalate (parts path)
  if text.isEmpty then "." else text

end PeFacts.PathName
