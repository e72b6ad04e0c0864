import KeySequenced.Text.Hidden

/-!
# Quoted text

A text between quotation marks.  Marks and backslashes in it stand behind a
backslash, and a character that is not shown is written as an escape.
-/

set_option autoImplicit false

namespace KeySequenced.Text

def codePointEscape (character : Char) : List Char :=
  '\\' :: 'u' :: '\x7b' :: Nat.toDigits 16 character.toNat ++ ['\x7d']

def escape (character : Char) : List Char :=
  match character with
  | '\x00' => ['\\', '0']
  | '\t' => ['\\', 't']
  | '\r' => ['\\', 'r']
  | '\n' => ['\\', 'n']
  | '"' => ['\\', '"']
  | '\\' => ['\\', '\\']
  | other => if isHidden other then codePointEscape other else [other]

def quote (text : String) : String :=
  String.ofList ('"' :: text.toList.flatMap escape ++ ['"'])

end KeySequenced.Text
