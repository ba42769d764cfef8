import KnotAtlas.Text.Lines

/-!
The stem of a file name: the last component of its path up to the last point. Backslashes separate
components too; components that are empty or a single point count for nothing.
-/

namespace KnotAtlas.Detect

/-- The last component of a path, empty if there is none. -/
def fileName (path : String) : List Char :=
  let pieces := Text.splitBy (fun c => c = '/' || c = '\\') path.toList
  ((pieces.filter fun p => !p.isEmpty && p != ['.']).getLast?).getD []

/-- The part of a file name before its last point; a point at either end does not count. -/
def stemOf (name : List Char) : List Char :=
  let extension := name.reverse.takeWhile (· != '.')
  let stem := (name.reverse.drop (extension.length + 1)).reverse
  if extension.isEmpty || stem.isEmpty then name else stem

def fileStem (path : String) : String :=
  String.ofList (stemOf (fileName path))

end KnotAtlas.Detect
