import HttpCourier.Bytes.Basic
import HttpCourier.Text.Printable

/-!
# Quoted text

Messages show a text between quotes: single quotes, unless the text has a single quote and no double
quote. Inside, the backslash and the chosen quote are escaped, and characters that cannot be shown
are written by their code point.
-/

namespace HttpCourier.Text

/-- The last `k` hexadecimal digits of a number, most significant first. -/
def hexDigits : Nat → Nat → List Char
  | 0, _ => []
  | k + 1, n => hexDigits k (n / 16) ++ [Bytes.hexDigit (n % 16)]

/-- The quote that a text is shown in. -/
def quoteFor (s : List Char) : Char :=
  if s.contains '\'' && !s.contains '"' then '"' else '\''

/-- A character that cannot be shown, by its code point. -/
def escapeCode (c : Char) : List Char :=
  if c.toNat < 0x100 then '\\' :: 'x' :: hexDigits 2 c.toNat
  else if c.toNat < 0x10000 then '\\' :: 'u' :: hexDigits 4 c.toNat
  else '\\' :: 'U' :: hexDigits 8 c.toNat

/-- One character inside quotes. -/
def quoteChar (quote c : Char) : List Char :=
  if c = quote || c = '\\' then ['\\', c]
  else if c = '\t' then ['\\', 't']
  else if c = '\n' then ['\\', 'n']
  else if c = '\r' then ['\\', 'r']
  else if isPrintable c then [c]
  else escapeCode c

/-- A text in quotes. -/
def quoted (s : String) : String :=
  let chars := s.toList
  let q := quoteFor chars
  String.ofList (q :: chars.flatMap (quoteChar q) ++ [q])

/-- Bytes in quotes, marked with `b`; bytes that are not printable ASCII are written in hex. -/
def quotedBytes (bytes : Bytes) : String :=
  let chars := Bytes.latin1 bytes
  let q := quoteFor chars
  String.ofList ('b' :: q :: chars.flatMap (fun c =>
    if c.toNat < 128 then quoteChar q c else escapeCode c) ++ [q])

end HttpCourier.Text
