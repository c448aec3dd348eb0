import SessionMux.Text.Invisible
import SessionMux.Text.Number

/-!
Quoted text: a text between quotes in which everything that a reader could not see is written as an
escape.
-/

namespace SessionMux.Text

def escape (c : Char) : List Char :=
  match c with
  | '\x00' => ['\\', '0']
  | '\t' => ['\\', 't']
  | '\n' => ['\\', 'n']
  | '\r' => ['\\', 'r']
  | '"' => ['\\', '"']
  | '\\' => ['\\', '\\']
  | c =>
    if c.toNat < 0x20 || c.toNat = 0x7f || isInvisible c then
      ['\\', 'u', '\x7b'] ++ (toHex c.toNat).toList ++ ['\x7d']
    else [c]

def quote (text : String) : String :=
  String.ofList (['"'] ++ text.toList.flatMap escape ++ ['"'])

end SessionMux.Text
