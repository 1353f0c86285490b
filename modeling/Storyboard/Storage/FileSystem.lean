import Storyboard.Text.Blank

/-!
# File systems

Directories and files by their paths below one root directory. Only what saving and reading
documents needs is kept: which paths are directories, which are files, and what the files hold. How
long names may be, and in what order a directory gives its names, is a matter of the disk.
-/

namespace Storyboard.Storage

/-- The names along a path below the root. -/
abbrev Path := List String

/-- The path that a text with slashes writes; empty names and points stay where they are. -/
def Path.ofText (text : String) : Path :=
  ((Text.splitAll '/' text.toList).map String.ofList).filter fun name => name != "" && name != "."

/-- What disks differ in. -/
structure Disk where
  /-- How many bytes a name may have. -/
  longestName : Nat
  /-- How many bytes a path below the root may have. -/
  longestPath : Nat
  /-- The names in a directory, in the order that it gives them in. -/
  order : Path → List String → List String
  order_perm : ∀ path names, (order path names).Perm names

/-- A disk that gives names in the order in which they come, with the limits that are common. -/
def Disk.plain : Disk := ⟨255, 4095, fun _ names => names, fun _ _ => .refl _⟩

/-- Whether the last name of a path is short enough to be given to something. -/
def Disk.isNameable (disk : Disk) (path : Path) : Bool :=
  path.getLast?.any (·.utf8ByteSize ≤ disk.longestName)

/-- Whether a path can be asked for at all: it is not too long and holds no zero character. -/
def Disk.isAddressable (disk : Disk) (path : Path) : Bool :=
  path.foldl (fun size name => size + name.utf8ByteSize + 1) 0 ≤ disk.longestPath + 1
    && path.all fun name => !name.toList.contains '\u0000'

/-- What is at a path. -/
inductive Node where
  | directory
  | file (content : String)
  deriving DecidableEq

/-- What is below the root, each path once. -/
structure FileSystem where
  disk : Disk
  nodes : List (Path × Node)

namespace FileSystem

/-- Only the root. -/
def empty (disk : Disk) : FileSystem := ⟨disk, []⟩

/-- What is at a path; the root is a directory. -/
def node? (fs : FileSystem) (path : Path) : Option Node :=
  if path = [] then some .directory else fs.nodes.lookup path

/-- Whether a path is a directory. -/
def isDirectory (fs : FileSystem) (path : Path) : Bool := fs.node? path == some .directory

/-- What the file at a path holds. -/
def read? (fs : FileSystem) (path : Path) : Option String :=
  match fs.node? path with
  | some (.file content) => some content
  | _ => none

/-- Nothing at a path any more. -/
def remove (fs : FileSystem) (path : Path) : FileSystem :=
  { fs with nodes := fs.nodes.filter fun (p, _) => p != path }

/-- Something else at a path. -/
def put (fs : FileSystem) (path : Path) (node : Node) : FileSystem :=
  { fs with nodes := (path, node) :: (fs.remove path).nodes }

/-- The paths from below the root down to a path. -/
def prefixes (path : Path) : List Path :=
  (List.range path.length).map fun count => path.take (count + 1)

/-- Makes a directory below an existing one; it may exist already, but not as a file. -/
def makeDirectory (fs : FileSystem) (path : Path) : Option FileSystem :=
  match fs.node? path with
  | some .directory => some fs
  | some (.file _) => none
  | none => if fs.disk.isNameable path then some (fs.put path .directory) else none

/-- Makes directories one after the other until one cannot be made; whether all could. -/
def makeEach (fs : FileSystem) : List Path → FileSystem × Bool
  | [] => (fs, true)
  | path :: rest =>
    match fs.makeDirectory path with
    | some fs => fs.makeEach rest
    | none => (fs, false)

/-- Makes a directory and those above it, from the root down; whether all could be made. Those that
were made stay. -/
def makeDirectories (fs : FileSystem) (path : Path) : FileSystem × Bool :=
  if fs.disk.isAddressable path then fs.makeEach (prefixes path) else (fs, false)

/-- Writes a file in an existing directory, in place of one of its name. -/
def write (fs : FileSystem) (path : Path) (content : String) : Option FileSystem :=
  if fs.disk.isAddressable path && fs.disk.isNameable path && fs.isDirectory path.dropLast
      && !fs.isDirectory path then
    some (fs.put path (.file content))
  else none

/-- Moves a file over another path of its directory, unless that is a directory. -/
def rename (fs : FileSystem) (source target : Path) : Option FileSystem :=
  match fs.read? source with
  | some content => ((fs.remove source).write target content)
  | none => none

/-- The names of what is in a directory. -/
def entries (fs : FileSystem) (path : Path) : List String :=
  fs.nodes.filterMap fun (p, _) => if p.dropLast = path then p.getLast? else none

/-- The names in a directory, in the order that it gives them in. -/
def list (fs : FileSystem) (path : Path) : Option (List String) :=
  if fs.isDirectory path then some (fs.disk.order path (fs.entries path)) else none

end FileSystem

end Storyboard.Storage
