import CrowdSim.Sim.Config

/-!
# Configuration files

A configuration file is read whole and then decoded as `Config.parse` does. Reading goes through
a `Files` view of the file system, so that the same code serves a real directory and a model of
one. `Files.ofTree` is that model: a tree of directories and files and a working directory in
it, read the way the kernel resolves a path.

* A path holding a NUL byte is refused before it reaches the kernel, and one of 4096 bytes or
  more is too long.
* A path starting with a slash starts at the root, any other one at the working directory.
* The components are taken in turn: an empty one and `.` stay, `..` goes up (the root is its own
  parent), and a name is looked up in the current directory, where it must exist and be at most
  255 bytes long. Any component after a file, even an empty one, fails as not a directory.
* A path that ends at a directory cannot be read; one that ends at a file gives its text.
-/

namespace CrowdSim

/-- Why a file cannot be read, with the path as given. -/
inductive FileError where
  | notFound (path : String)
  | isDirectory (path : String)
  | notDirectory (path : String)
  | nameTooLong (path : String)
  | invalidArgument (path : String)

/-- The message of a file error, as the operating system words it. -/
def FileError.message : FileError → String
  | .notFound p => "open " ++ p ++ ": no such file or directory"
  | .isDirectory p => "read " ++ p ++ ": is a directory"
  | .notDirectory p => "open " ++ p ++ ": not a directory"
  | .nameTooLong p => "open " ++ p ++ ": file name too long"
  | .invalidArgument p => "open " ++ p ++ ": invalid argument"

/-- A view of the file system: the contents of a path, or why it cannot be read. -/
abbrev Files := String → Except FileError String

/-- A directory tree: a file holds its text, a directory its entries by name. -/
inductive FileTree where
  | file (text : String)
  | dir (entries : List (String × FileTree))
  deriving Inhabited

namespace FileTree

/-- The entry of a directory with this name. -/
def child? (t : FileTree) (name : String) : Option FileTree :=
  match t with
  | .dir es => (es.find? fun e => e.1 == name).map (·.2)
  | .file _ => none

/-- The node reached from `t` through the names, outermost first. -/
def find? (t : FileTree) : List String → Option FileTree
  | [] => some t
  | n :: ns =>
    match t.child? n with
    | some c => c.find? ns
    | none => none

/-- The node is a file. -/
def isFile : FileTree → Bool
  | .file _ => true
  | .dir _ => false

end FileTree

namespace Files

/-- The longest path and the longest path component, in bytes. -/
def pathMax : Nat := 4096
def nameMax : Nat := 255

/-- Walks the components of `path` through `root` from the node whose names, innermost first,
are `here`; the names of the node reached. -/
def walk (root : FileTree) (path : String) (here : List String) :
    List String → Except FileError (List String)
  | [] => .ok here
  | c :: cs =>
    if ((root.find? here.reverse).map FileTree.isFile).getD false then .error (.notDirectory path)
    else if c.isEmpty || c == "." then walk root path here cs
    else if c == ".." then walk root path here.tail cs
    else if c.utf8ByteSize > nameMax then .error (.nameTooLong path)
    else match root.find? (c :: here).reverse with
      | some _ => walk root path (c :: here) cs
      | none => .error (.notFound path)

/-- The file system of the tree `root` seen from the working directory `cwd` (names outermost
first). -/
def ofTree (root : FileTree) (cwd : List String) : Files := fun path =>
  if path.toList.contains (Char.ofNat 0) then .error (.invalidArgument path)
  else if path.utf8ByteSize ≥ pathMax then .error (.nameTooLong path)
  else if path.isEmpty then .error (.notFound path)
  else
    let parts := path.splitOn "/"
    let start := if path.startsWith "/" then walk root path [] parts.tail
      else walk root path cwd.reverse parts
    match start with
    | .error e => .error e
    | .ok here =>
      match root.find? here.reverse with
      | some (.file text) => .ok text
      | _ => .error (.isDirectory path)

/-- An empty file system: the root directory alone, which is also the working directory. -/
def empty : Files := ofTree (.dir []) []

end Files

namespace Config

/-- The configuration in the file at `path`, read through `files`, decoded and checked. -/
def load (files : Files) (path : String) : Except (FileError ⊕ ConfigError) Config :=
  match files path with
  | .error e => .error (.inl e)
  | .ok text => (parse text).mapError .inr

end Config

end CrowdSim
