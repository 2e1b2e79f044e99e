import ZeroError.Text.Hidden

/-!
Quoted texts, as they appear in messages. A quoted text stands between double quotes; the quote and
the backslash get a backslash, four controls have a letter of their own, and every other hidden
character is written as its code point, so that a message stays on one line and two texts never
share a quoted form.
-/

namespace ZeroError.Text

def hexDigits (n : Nat) : List Char :=
  Nat.toDigits 16 n

def quoteChar (c : Char) : List Char :=
  if c = '"' then ['\\', '"']
  else if c = '\\' then ['\\', '\\']
  else if c = '\x00' then ['\\', '0']
  else if c = '\t' then ['\\', 't']
  else if c = '\n' then ['\\', 'n']
  else if c = '\r' then ['\\', 'r']
  else if isHidden c then ['\\', 'u', '\x7b'] ++ hexDigits c.toNat ++ ['\x7d']
  else [c]

def quoteChars (cs : List Char) : List Char :=
  cs.flatMap quoteChar

def quote (s : String) : String :=
  String.ofList ('"' :: quoteChars s.toList ++ ['"'])

def quoteList (names : List String) : String :=
  "[" ++ String.intercalate ", " (names.map quote) ++ "]"

end ZeroError.Text
