import TurtleGraphics.Text.Invisible

set_option autoImplicit false

/-!
# Texts quoted in messages

A message shows a text between double quotes so that each of its characters can be told: what has
no image of its own stands as its code point.
-/

namespace TurtleGraphics.Text

/-- Lower-case hexadecimal digits, most significant first and without leading zeros. -/
def hexDigits (n : Nat) : List Char :=
  Nat.toDigits 16 n

def quotedChar (c : Char) : List Char :=
  match c with
  | '\x00' => ['\\', '0']
  | '\t' => ['\\', 't']
  | '\n' => ['\\', 'n']
  | '\r' => ['\\', 'r']
  | '"' => ['\\', '"']
  | '\\' => ['\\', '\\']
  | _ =>
    if isInvisible c then '\\' :: 'u' :: '\x7b' :: (hexDigits c.toNat ++ ['\x7d'])
    else [c]

def quoted (text : String) : String :=
  String.ofList ('"' :: (text.toList.flatMap quotedChar ++ ['"']))

end TurtleGraphics.Text
