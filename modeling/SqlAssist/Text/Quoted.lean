/-
# Quoting a text inside a message

A quoted text stands between double quotes, and a reader can tell every character of it: the
quote, the backslash and the common controls have a short escape, characters that would not
show have one by code point, and all others stand for themselves.
-/

import SqlAssist.Text.Visible

namespace SqlAssist.Text

/-- The escape of a character by its code point, in lower-case hexadecimal without padding. -/
def codeEscape (c : Char) : List Char :=
  ['\\', 'u', '\x7b'] ++ Nat.toDigits 16 c.toNat ++ ['\x7d']

/-- How one character is written between the quotes. -/
def quoteChar (c : Char) : List Char :=
  match c with
  | '\x00' => ['\\', '0']
  | '\t' => ['\\', 't']
  | '\r' => ['\\', 'r']
  | '\n' => ['\\', 'n']
  | '\"' => ['\\', '\"']
  | '\\' => ['\\', '\\']
  | c => if isVisible c then [c] else codeEscape c

/-- A text between double quotes, with its characters told apart. -/
def quoted (text : String) : String :=
  String.ofList (['\"'] ++ text.toList.flatMap quoteChar ++ ['\"'])

end SqlAssist.Text
