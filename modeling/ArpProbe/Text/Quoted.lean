import ArpProbe.Text.Hex
import ArpProbe.Text.Visible

/-!
# Quoted text

A text between double quotes, in which quotes, backslashes and invisible characters are escaped, so
that a message shows exactly what was given.
-/

namespace ArpProbe.Text

/-- A character as it stands between quotes: four have a letter or digit of their own, the backslash and the
double quote follow a backslash, and other invisible ones are given by their code point. -/
def quoteChar (c : Char) : List Char :=
  match c with
  | '\x00' => ['\\', '0']
  | '\t' => ['\\', 't']
  | '\r' => ['\\', 'r']
  | '\n' => ['\\', 'n']
  | '\\' => ['\\', '\\']
  | '"' => ['\\', '"']
  | c => if isVisible c then [c] else ['\\', 'u', '\x7b'] ++ Hex.number c.toNat ++ ['\x7d']

/-- A text between double quotes. -/
def quote (text : List Char) : List Char :=
  '"' :: text.flatMap quoteChar ++ ['"']

end ArpProbe.Text
