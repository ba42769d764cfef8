import KnotAtlas.OrderedMap
import KnotAtlas.Text.Lines
import KnotAtlas.Text.Quoted

/-!
Files and directories as a program sees them from its working directory. A path is brought to its
plain form, without empty components and single points; the empty path is the directory itself. Two
slashes in front are kept, more count as one. Paths and their components have a greatest length.
-/

namespace KnotAtlas.Files

/-- What stands under a path. -/
inductive Node where
  | file (bytes : List UInt8)
  | directory

inductive Fault where
  | notFound
  | notDirectory
  | isDirectory
  | tooLong
  deriving DecidableEq, Repr

def Fault.message : Fault → String
  | .notFound => "No such file or directory"
  | .notDirectory => "Not a directory"
  | .isDirectory => "Is a directory"
  | .tooLong => "File name too long"

def Fault.number : Fault → Nat
  | .notFound => 2
  | .notDirectory => 20
  | .isDirectory => 21
  | .tooLong => 36

def Fault.withPath (f : Fault) (path : String) : String :=
  s!"[Errno {f.number}] {f.message}: " ++ Text.quoted path

def components (path : String) : List String :=
  (Text.splitOn '/' path).filter fun c => c != "" && c != "."

def slashes (path : String) : String :=
  if "//".isPrefixOf path && !"///".isPrefixOf path then "//"
  else if "/".isPrefixOf path then "/"
  else ""

def plainPath (path : String) : String :=
  let plain := slashes path ++ "/".intercalate (components path)
  if plain = "" then "." else plain

def baseName (path : String) : String :=
  ((components path).getLast?).getD ""

def join (directory name : String) : String :=
  if directory = "." then name
  else if directory = "/" then "/" ++ name
  else directory ++ "/" ++ name

/-- Where a path leads from: the root if it starts with a slash, or else the working directory. -/
def origin (path : String) : List String :=
  if "/".isPrefixOf path then ["/"] else []

def destination (path : String) : List String :=
  (components path).foldl
    (fun place c => if c = ".." then place.dropLast else place ++ [c]) (origin path)

/-- Files and directories by where they stand; what an entry stands in is a directory. -/
abbrev Tree := OrderedMap (List String) Node

def ofList (entries : List (String × Node)) : Tree :=
  entries.map fun (path, node) => (origin path ++ components path, node)

def Tree.at? (t : Tree) (place : List String) : Option Node :=
  match t.find? place with
  | some node => some node
  | none =>
    if place.isEmpty || place = ["/"] || t.any (fun e => place.isPrefixOf e.1) then
      some .directory
    else none

def componentLimit : Nat := 255

def pathLimit : Nat := 4095

def isLongComponent (c : String) : Bool :=
  componentLimit < c.utf8ByteSize

/-- What stands under components of a path, looked up one by one from a directory. -/
def Tree.walk (t : Tree) (place : List String) : List String → Except Fault Node
  | [] => .ok .directory
  | ".." :: rest =>
    if place.isEmpty then .error .notFound
    else t.walk (if place = ["/"] then place else place.dropLast) rest
  | c :: rest =>
    if isLongComponent c then .error .tooLong
    else
      match t.at? (place ++ [c]), rest with
      | none, _ => .error .notFound
      | some .directory, rest => t.walk (place ++ [c]) rest
      | some (.file bytes), [] => .ok (.file bytes)
      | some (.file _), _ :: _ => .error .notDirectory

def Tree.look (t : Tree) (path : String) : Except Fault Node :=
  if pathLimit < (plainPath path).utf8ByteSize then .error .tooLong
  else t.walk (origin path) (components path)

def Tree.read (t : Tree) (path : String) : Except Fault (List UInt8) :=
  match t.look path with
  | .ok (.file bytes) => .ok bytes
  | .ok .directory => .error .isDirectory
  | .error f => .error f

def Tree.isDirectory (t : Tree) (path : String) : Bool :=
  match t.look path with
  | .ok .directory => true
  | _ => false

def Tree.isFile (t : Tree) (path : String) : Bool :=
  match t.look path with
  | .ok (.file _) => true
  | _ => false

def leading (path : String) (n : Nat) : String :=
  slashes path ++ "/".intercalate ((components path).take n)

/-- Why there can be no directory under a path, and the path where that shows. Directories on the
way that are not there are made one by one. -/
def Tree.makeFault? (t : Tree) (path : String) : Option (String × Fault) :=
  match t.look path with
  | .ok _ => none
  | .error .notFound =>
    let long := (components path).findIdx? isLongComponent
    long.map fun i => (leading path (i + 1), .tooLong)
  | .error f => some (plainPath path, f)

def Tree.has (t : Tree) (path : String) : Bool :=
  match t.look path with
  | .ok _ => true
  | .error _ => false

end KnotAtlas.Files
