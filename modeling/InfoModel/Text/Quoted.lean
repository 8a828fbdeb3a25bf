/-
**Names in quotes.**

A name between double quotes, with backslash escapes for what would not show.

* `Text.quoted` escapes quote, backslash, tab, line feed, carriage return and U+0000 by a letter or
  sign of their own, and a hidden character by its hexadecimal code in braces.
-/

import InfoModel.Text.Hidden

namespace InfoModel.Text

/-- The hexadecimal digits of a number in lower case. -/
def hexDigits (value : Nat) : List Char :=
  Nat.toDigits 16 value

/-- The written form of one character inside quotes. -/
def quotedChar (char : Char) : List Char :=
  if char = '"' then ['\\', '"']
  else if char = '\\' then ['\\', '\\']
  else if char = '\t' then ['\\', 't']
  else if char = '\n' then ['\\', 'n']
  else if char = '\r' then ['\\', 'r']
  else if char.toNat = 0 then ['\\', '0']
  else if isHidden char then ['\\', 'u', '\x7b'] ++ hexDigits char.toNat ++ ['\x7d']
  else [char]

/-- A name in quotes. -/
def quoted (name : String) : String :=
  String.ofList ('"' :: name.toList.flatMap quotedChar ++ ['"'])

end InfoModel.Text
