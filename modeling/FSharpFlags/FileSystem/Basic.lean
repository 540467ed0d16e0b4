import FSharpFlags.Failure

/-!
# The file system

What the program sees of the world is one value: a tree of directories and files and a current
directory. A file or directory may be closed to the user; a closed directory can be examined but
neither searched nor listed, a closed file can be examined but not read.

A path is resolved one component at a time from a *place*, which is a node together with the
directories above it, so that `..` needs no second look at the tree. Each step meets its faults
in a fixed order: the present node is no directory, it is closed, the component is too long, it is
missing.
-/

namespace FSharpFlags

/-- A file or a directory. -/
inductive Node where
  /-- A file with its contents. -/
  | file (contents : ByteArray) (closed : Bool)
  /-- A directory with its named entries. -/
  | directory (entries : List (String × Node)) (closed : Bool)

namespace Node

/-- Whether the node is a directory. -/
def isDirectory : Node → Bool
  | .file .. => false
  | .directory .. => true

/-- Whether the node is a file. -/
def isFile : Node → Bool
  | .file .. => true
  | .directory .. => false

/-- The entry of the given name. -/
def entry? (node : Node) (name : String) : Option Node :=
  match node with
  | .file .. => none
  | .directory entries _ => entries.lookup name

/-- An open directory without entries. -/
def emptyDirectory : Node := .directory [] false

theorem isFile_eq_not_isDirectory (node : Node) : node.isFile = !node.isDirectory := by
  cases node <;> rfl

end Node

/-- A node and the directories above it, nearest first. -/
structure Place where
  /-- The node reached. -/
  node : Node
  /-- The directories on the way to it, nearest first. -/
  above : List Node

namespace Place

/-- The directory above; the root lies in itself. -/
def up (p : Place) : Place :=
  match p.above with
  | [] => p
  | parent :: rest => ⟨parent, rest⟩

/-- The longest component that a directory takes, in bytes. -/
def maxName : Nat := 255

/-- Follows one component. -/
def step (p : Place) (name : String) : Except FileFault Place :=
  match p.node with
  | .file .. => .error .notDirectory
  | .directory entries closed =>
    if closed then .error .denied
    else if name = "." then .ok p
    else if name = ".." then .ok p.up
    else if maxName < name.utf8ByteSize then .error .nameTooLong
    else
      match entries.lookup name with
      | some node => .ok ⟨node, p.node :: p.above⟩
      | none => .error .missing

/-- Follows the components in order. -/
def walk (p : Place) : List String → Except FileFault Place
  | [] => .ok p
  | name :: rest =>
    match p.step name with
    | .ok q => q.walk rest
    | .error fault => .error fault

@[simp] theorem walk_nil (p : Place) : p.walk [] = .ok p := rfl

theorem walk_cons (p : Place) (name : String) (rest : List String) :
    p.walk (name :: rest) = (p.step name).bind (·.walk rest) := by
  cases h : p.step name <;> simp [walk, h, Except.bind]

end Place

/-- The state of the world that the program reads. -/
structure FileSystem where
  /-- The root directory. -/
  root : Node
  /-- The text of the current directory. -/
  currentDirectory : String

/-- The names between the separators of a path text. -/
def pathNames (text : String) : List String :=
  ((text.toList.splitOn '/').filter fun piece ↦ !piece.isEmpty).map String.ofList

namespace FileSystem

/-- The components that resolving a path follows; a separator at the end asks for a directory. -/
def components (path : String) : List String :=
  let names := pathNames path
  if !names.isEmpty && path.toList.getLast? = some '/' then names ++ ["."] else names

/-- Descends by names without regard to permissions, stopping where there is no such entry. -/
def descend (p : Place) : List String → Place
  | [] => p
  | name :: rest =>
    match p.node.entry? name with
    | some node => descend ⟨node, p.node :: p.above⟩ rest
    | none => p

/-- The root as a place. -/
def top (fs : FileSystem) : Place := ⟨fs.root, []⟩

/-- The current directory as a place; it stays reachable whatever lies above it. -/
def here (fs : FileSystem) : Place := descend fs.top (pathNames fs.currentDirectory)

/-- The place where resolving a path begins. -/
def start (fs : FileSystem) (path : String) : Place :=
  if path.toList.head? = some '/' then fs.top else fs.here

/-- The longest path that is taken, in bytes. -/
def maxPath : Nat := 4095

/-- Finds the node that a path text names. -/
def resolve (fs : FileSystem) (path : String) : Except Failure Node :=
  if path.toList.contains '\x00' then .error .nulInPath
  else if path.isEmpty then .error (.file .missing path)
  else if maxPath < path.utf8ByteSize then .error (.file .nameTooLong path)
  else
    match (fs.start path).walk (components path) with
    | .ok place => .ok place.node
    | .error fault => .error (.file fault path)

/-- Whether resolving failed because nothing is there. -/
def isAbsence : Failure → Bool
  | .nulInPath => true
  | .file .missing _ => true
  | .file .notDirectory _ => true
  | _ => false

/-- Whether a path names a node of the given sort. A path that leads nowhere does not; a path that
cannot be followed to its end for another reason is a failure. -/
def examine (fs : FileSystem) (sort : Node → Bool) (path : String) : Except Failure Bool :=
  match fs.resolve path with
  | .ok node => .ok (sort node)
  | .error failure => if isAbsence failure then .ok false else .error failure

/-- Whether a path names a file. -/
def isFile (fs : FileSystem) (path : String) : Except Failure Bool := fs.examine Node.isFile path

/-- Whether a path names a directory. -/
def isDirectory (fs : FileSystem) (path : String) : Except Failure Bool :=
  fs.examine Node.isDirectory path

/-- Whether a path can be followed to something. -/
def reaches (fs : FileSystem) (path : String) : Bool :=
  match fs.resolve path with
  | .ok _ => true
  | .error _ => false

/-- The entries of a directory. -/
def list (fs : FileSystem) (path : String) : Except Failure (List (String × Node)) :=
  match fs.resolve path with
  | .error failure => .error failure
  | .ok (.file ..) => .error (.file .notDirectory path)
  | .ok (.directory entries closed) =>
    if closed then .error (.file .denied path) else .ok entries

/-- The contents of a file. -/
def read (fs : FileSystem) (path : String) : Except Failure ByteArray :=
  match fs.resolve path with
  | .error failure => .error failure
  | .ok (.directory _ _) => .error (.file .isDirectory path)
  | .ok (.file contents closed) =>
    if closed then .error (.file .denied path) else .ok contents

/-- The given names in the order of their characters. -/
def sortedNames (names : List String) : List String := names.mergeSort fun a b ↦ decide (a ≤ b)

/-- The names in a directory that pass a test, in order. What is no directory has none, and nor
has one that may not be listed. -/
def namesIn (fs : FileSystem) (path : String) (keep : String → Bool) :
    Except Failure (List String) := do
  if ← fs.isDirectory path then
    match fs.list path with
    | .ok entries => return sortedNames ((entries.map (·.1)).filter keep)
    | .error (.file .denied _) => return []
    | .error failure => throw failure
  else return []

end FileSystem

end FSharpFlags
