import KnotAtlas.Files.Tree
import KnotAtlas.Text.Utf8

/-!
Text files. They are read as UTF-8, and line ends of every kind come out as line feeds.
-/

namespace KnotAtlas.Files

inductive TextFault where
  | unreadable (fault : Fault)
  | notUtf8 (fault : Text.Utf8.Fault)
  deriving DecidableEq, Repr

def textOf (bytes : List UInt8) : Except Text.Utf8.Fault String :=
  (Text.Utf8.decode bytes).map fun cs => String.ofList (Text.plainLineEnds cs)

def Tree.readText (t : Tree) (path : String) : Except TextFault String :=
  match t.read path with
  | .error fault => .error (.unreadable fault)
  | .ok bytes => (textOf bytes).mapError .notUtf8

end KnotAtlas.Files
