import GameBoy.Text.Unprintable

/-!
# Quoted text

Text in double quotes, with a backslash in front of the characters that would end or garble it.
Characters that do not show are written by their number.
-/

namespace GameBoy.Quoted

/-- The number of a character between braces. -/
def numbered (c : Char) : List Char :=
  ['\\', 'u', '\x7b'] ++ Nat.toDigits 16 c.toNat ++ ['\x7d']

/-- A character as it stands between the quotes. -/
def escape (c : Char) : List Char :=
  match c with
  | '\x00' => ['\\', '0']
  | '\t' => ['\\', 't']
  | '\r' => ['\\', 'r']
  | '\n' => ['\\', 'n']
  | '\\' => ['\\', '\\']
  | '"' => ['\\', '"']
  | _ => if isUnprintable c then numbered c else [c]

def text (content : String) : String :=
  String.ofList (['"'] ++ content.toList.flatMap escape ++ ['"'])

end GameBoy.Quoted
