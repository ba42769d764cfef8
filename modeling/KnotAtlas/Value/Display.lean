import KnotAtlas.Datum.Display

/-!
How messages show a value: as they show configuration data.
-/

namespace KnotAtlas.Value

def display (v : Value) : String :=
  (Datum.ofValue v).display

def text (v : Value) : String :=
  (Datum.ofValue v).text

end KnotAtlas.Value
