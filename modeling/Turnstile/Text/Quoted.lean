import Turnstile.Unicode.Category
import Turnstile.Unicode.Property

/-! Quoted text for diagnostics: what cannot be printed is escaped. -/
namespace Turnstile.Text

open Unicode

/-- Spaces other than the plain one, controls and characters without a glyph are not printable. -/
def isPrintable (c : Char) : Bool :=
  c = ' ' || (match Category.ofChar c with
    | .control | .format | .surrogate | .privateUse | .unassigned
    | .lineSeparator | .paragraphSeparator | .spaceSeparator => false
    | _ => true)

private def hex (n : Nat) : List Char := Nat.toDigits 16 n

def escape (c : Char) : List Char :=
  match c with
  | '\x00' => ['\\', '0']
  | '\t' => ['\\', 't']
  | '\r' => ['\\', 'r']
  | '\n' => ['\\', 'n']
  | '"' => ['\\', '"']
  | '\\' => ['\\', '\\']
  | c =>
    if isGraphemeExtend c || !isPrintable c then
      ['\\', 'u', '\x7b'] ++ hex c.toNat ++ ['\x7d']
    else [c]

/-- The text between double quotes. -/
def quoted (s : String) : String :=
  .ofList ('"' :: s.toList.flatMap escape ++ ['"'])

end Turnstile.Text
