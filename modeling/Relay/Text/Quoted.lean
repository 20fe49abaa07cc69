import Relay.Text.Printable

/-!
# Quoted texts

A quoted text stands between double quotes and can be shown on a line: quotes,
backslashes, line ends, tabs and NUL are written with a backslash, and marks and
characters that are not printable by their number in hexadecimal.

## Main definitions

* `quoted` — a text with its quotes.
* `quotedList` — a list of quoted texts in square brackets.
-/

namespace Relay.Text

/-- A character by its number, in hexadecimal between braces. -/
def byNumber (c : Char) : List Char :=
  ['\\', 'u', '\x7b'] ++ Nat.toDigits 16 c.toNat ++ ['\x7d']

/-- A character inside quotes. -/
def quotedChar (c : Char) : List Char :=
  if c = '\x00' then ['\\', '0']
  else if c = '\t' then ['\\', 't']
  else if c = '\r' then ['\\', 'r']
  else if c = '\n' then ['\\', 'n']
  else if c = '\\' then ['\\', '\\']
  else if c = '"' then ['\\', '"']
  else if isMark c || !isPrintable c then byNumber c
  else [c]

/-- The text with its quotes. -/
def quoted (text : String) : List Char :=
  '"' :: text.toList.flatMap quotedChar ++ ['"']

/-- The texts with their quotes, in square brackets. -/
def quotedList (texts : List String) : String :=
  String.ofList ('[' :: [',', ' '].intercalate (texts.map quoted) ++ [']'])

end Relay.Text
