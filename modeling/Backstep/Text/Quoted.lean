import Backstep.Text.Extending
import Backstep.Text.Unprintable

/-!
# Quoted text

The form in which a log writes a text that may hold anything: between double quotes, with every
character that would not show as itself escaped. Printable characters of any script stand for
themselves, and so does the single quote, which needs no escape between double ones.
-/

namespace Backstep.Text

/-- The digits of a code point in base sixteen, lower case, without leading zeros. -/
def codePointDigits (c : Char) : List Char := Nat.toDigits 16 c.toNat

/-- Whether a character only shows together with the one before it. The halfwidth sound marks
extend a syllable too, but they have a place of their own. -/
def isAttached (c : Char) : Bool :=
  isExtending c && !(0xFF9E ≤ c.toNat && c.toNat ≤ 0xFF9F)

/-- How one character is written between double quotes. -/
def escape (c : Char) : List Char :=
  if c = '"' ∨ c = '\\' then ['\\', c]
  else if c = '\t' then ['\\', 't']
  else if c = '\n' then ['\\', 'n']
  else if c = '\r' then ['\\', 'r']
  else if c = '\x00' then ['\\', '0']
  else if isAttached c || isUnprintable c then
    ['\\', 'u', '\x7b'] ++ codePointDigits c ++ ['\x7d']
  else [c]

/-- A text between double quotes, escaped where needed. -/
def quote (text : String) : String :=
  String.ofList ('"' :: (text.toList.flatMap escape ++ ['"']))

end Backstep.Text
