import Retrofit.Body.Layout

/-!
The assembly text of a body.
-/

namespace Retrofit.Body

def labelText (label : LabelId) : String := label.text ++ ":\n"

def lineText (body : Body) (entry : Line × Nat) : String :=
  String.join ((body.labelsAt entry.1.id).map labelText)
    ++ "  IL_" ++ Text.paddedHex 4 entry.2 ++ ": " ++ entry.1.instr.text ++ "\n"

/-- All lines with their labels, then the labels behind the last line. -/
def text (body : Body) : String :=
  String.join (body.layout.toList.map body.lineText) ++ String.join (body.labelsAtEnd.map labelText)

end Retrofit.Body
