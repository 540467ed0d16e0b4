import FSharpFlags.FileSystem.Basic

/-!
# Building a file system

A file system grows from the empty one by placing files and directories and by closing nodes.
Directories on the way to a placed node come into being as needed; a directory placed where one
stands already changes nothing.
-/

namespace FSharpFlags

namespace Node

/-- Changes the entry of the given name, which is added at the end when there is none. -/
def alter (change : Option Node → Node) (name : String) :
    List (String × Node) → List (String × Node)
  | [] => [(name, change none)]
  | (n, node) :: rest =>
    if n = name then (n, change (some node)) :: rest else (n, node) :: alter change name rest

/-- Puts a node beneath another one, under the given names. -/
def put (new : Node) : List String → Node → Node
  | [], old => if new.isDirectory && old.isDirectory then old else new
  | name :: rest, .directory entries closed =>
    .directory (alter (fun child ↦ put new rest (child.getD emptyDirectory)) name entries) closed
  | _ :: _, .file contents closed => .file contents closed

/-- Closes the node under the given names. -/
def close : List String → Node → Node
  | [], .file contents _ => .file contents true
  | [], .directory entries _ => .directory entries true
  | name :: rest, .directory entries closed =>
    .directory (entries.map fun e ↦ if e.1 = name then (e.1, close rest e.2) else e) closed
  | _ :: _, .file contents closed => .file contents closed

end Node

namespace FileSystem

/-- The file system that holds nothing but its current directory. -/
def empty (currentDirectory : String) : FileSystem where
  root := Node.put .emptyDirectory (pathNames currentDirectory) .emptyDirectory
  currentDirectory

/-- Places a file. -/
def withFile (fs : FileSystem) (path : String) (contents : ByteArray) : FileSystem :=
  { fs with root := Node.put (.file contents false) (pathNames path) fs.root }

/-- Places a directory. -/
def withDirectory (fs : FileSystem) (path : String) : FileSystem :=
  { fs with root := Node.put .emptyDirectory (pathNames path) fs.root }

/-- Closes a node to the user. -/
def withClosed (fs : FileSystem) (path : String) : FileSystem :=
  { fs with root := Node.close (pathNames path) fs.root }

end FileSystem

end FSharpFlags
