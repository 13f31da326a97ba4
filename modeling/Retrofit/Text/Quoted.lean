import Retrofit.Text.Combining
import Retrofit.Text.Digits
import Retrofit.Text.Unprintable

/-!
Text in double quotes: quotes, backslashes and what cannot be seen are escaped, all else stands as
it is.
-/

namespace Retrofit.Text

/-- A character that shows neither alone nor behind a quote. -/
def isHidden (c : Char) : Bool :=
  combining.contains c.toNat || unprintable.contains c.toNat

def escape (c : Char) : List Char :=
  match c with
  | '"' => ['\\', '"']
  | '\\' => ['\\', '\\']
  | '\n' => ['\\', 'n']
  | '\r' => ['\\', 'r']
  | '\t' => ['\\', 't']
  | '\x00' => ['\\', '0']
  | _ =>
    if c.toNat < 0x7F && ' ' ≤ c then [c]
    else if isHidden c then ['\\', 'u', '\x7b'] ++ hexDigits c.toNat ++ ['\x7d']
    else [c]

def quoted (text : String) : String :=
  String.ofList ('"' :: text.toList.flatMap escape ++ ['"'])

end Retrofit.Text
