/-!
Texts that stand in a program as literals. Their characters are at hand; read off the bytes of the
text, each of them would be looked for from the start.
-/

namespace KnotAtlas.Text

variable {cs : List Char}

theorem of_literal {P : List Char → Prop} (h : P cs) : P (String.ofList cs).toList := by
  rwa [String.toList_ofList]

end KnotAtlas.Text
