import MarcHarvest.Unicode.Property

/-!
# Quoted text in messages

A message quotes the text that it complains about between double quotes, with everything escaped
that a reader could not see or could take for the end of the quotation.
-/

namespace MarcHarvest.Text

open Unicode

/-- A character by its code point in hexadecimal. -/
def escapeCode (c : Char) : List Char :=
  ['\\', 'u', '\x7b'] ++ Nat.toDigits 16 c.toNat ++ ['\x7d']

/-- One character of a quotation. -/
def quoteChar (c : Char) : List Char :=
  if c = '"' then ['\\', '"']
  else if c = '\\' then ['\\', '\\']
  else if c = '\n' then ['\\', 'n']
  else if c = '\r' then ['\\', 'r']
  else if c = '\t' then ['\\', 't']
  else if c = '\x00' then ['\\', '0']
  else if !standsAlone .v17 c then escapeCode c
  else [c]

/-- A text between double quotes. -/
def quote (s : String) : String :=
  String.ofList ('"' :: s.toList.flatMap quoteChar ++ ['"'])

end MarcHarvest.Text
