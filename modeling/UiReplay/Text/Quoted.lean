import UiReplay.Text.Printable

/-!
# Quoted text

A text inside a message stands between double quotes.  The quote, the backslash
and the line controls are written with a backslash, any other character that is
not printable as `\u` with its code point in braces, and all else as itself.
-/

namespace UiReplay.Text

/-- The hexadecimal digits of a number, in lower case. -/
def hexDigits (n : Nat) : List Char := Nat.toDigits 16 n

/-- The hexadecimal digits of a number, at least `width` of them. -/
def hexPadded (width n : Nat) : List Char :=
  let ds := hexDigits n
  List.replicate (width - ds.length) '0' ++ ds

/-- One character as it stands between quotes. -/
def quotedChar (c : Char) : List Char :=
  if c = '"' then ['\\', '"']
  else if c = '\\' then ['\\', '\\']
  else if c = '\n' then ['\\', 'n']
  else if c = '\r' then ['\\', 'r']
  else if c = '\t' then ['\\', 't']
  else if c.toNat = 0 then ['\\', '0']
  else if isPrintable c then [c]
  else ['\\', 'u', '\x7b'] ++ hexDigits c.toNat ++ ['\x7d']

/-- A text between double quotes. -/
def quoted (s : String) : String :=
  String.ofList ('"' :: s.toList.flatMap quotedChar ++ ['"'])

/-! ## Tests -/

example : quotedChar 'a' = ['a'] ∧ quotedChar '"' = ['\\', '"'] := by decide +kernel
example : quotedChar '\u200b' = "\\u\x7b200b\x7d".toList := by decide +kernel

end UiReplay.Text
