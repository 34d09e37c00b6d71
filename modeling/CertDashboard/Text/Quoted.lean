import CertDashboard.Text.Hex
import CertDashboard.Unicode.Mark
import CertDashboard.Unicode.Unseen

set_option autoImplicit false
set_option relaxedAutoImplicit false

/-!
# Quoted text for messages

A text as a diagnostic shows it: in double quotes, with every character that a reader could not
see, or could mistake for the end of the text, written as an escape.

## Main definitions

* `CertDashboard.Text.isPrintable` — the characters that are shown as they are.
* `CertDashboard.Text.quoted` — the text in double quotes.
-/

namespace CertDashboard

namespace Text

/-- **Printable**: shown as it is. What a reader does not see is not, nor is what belongs to the
character before it, as a quotation mark might be that character. -/
def isPrintable (c : Char) : Bool :=
  !Unicode.isUnseen c && !Unicode.isExtending c

/-- One character of a quoted text. -/
def quotedChar (c : Char) : List Char :=
  if c = '\x00' then ['\\', '0']
  else if c = '\t' then ['\\', 't']
  else if c = '\n' then ['\\', 'n']
  else if c = '\r' then ['\\', 'r']
  else if c = '"' then ['\\', '"']
  else if c = '\\' then ['\\', '\\']
  else if isPrintable c then [c]
  else ['\\', 'u', '\x7b'] ++ Hex.number c.toNat ++ ['\x7d']

/-- **Quoted**: the text in double quotes, with a short escape for the quote, the backslash, the
tab, the two line ends and the null character, and a numbered escape for all else that is not
printable. -/
def quoted (s : String) : String :=
  String.ofList ('"' :: s.toList.flatMap quotedChar ++ ['"'])

end Text

end CertDashboard
