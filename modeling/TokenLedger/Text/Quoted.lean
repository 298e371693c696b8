import TokenLedger.Text.Hidden
/-!
Texts and characters in quotes, as messages show them.

The enclosing quote and the backslash are written behind a backslash; tab, line feed, carriage
return and the null character have short names; every other hidden character is written by its code
point in hexadecimal digits between braces; all else stands for itself. A text is enclosed in double
quotes and a single character in single quotes, and only the enclosing quote is escaped.
-/

namespace TokenLedger.Text

/-- The digits of a number in base sixteen, in lower case and without leading zeros. -/
def hexDigits (number : Nat) : String :=
  String.ofList (Nat.toDigits 16 number)

/-- One character between quotes of the given kind. -/
def escape (quote char : Char) : String :=
  if char = quote || char = '\\' then String.ofList ['\\', char]
  else if char = '\x00' then "\\0"
  else if char = '\t' then "\\t"
  else if char = '\n' then "\\n"
  else if char = '\r' then "\\r"
  else if isHidden char then "\\u\x7b" ++ hexDigits char.toNat ++ "\x7d"
  else char.toString

/-- A text in double quotes. -/
def quote (text : String) : String :=
  "\"" ++ String.join (text.toList.map (escape '"')) ++ "\""

/-- The single quote, U+0027. -/
def singleQuote : Char := Char.ofNat 0x27

/-- A character in single quotes. -/
def quoteChar (char : Char) : String :=
  singleQuote.toString ++ escape singleQuote char ++ singleQuote.toString

end TokenLedger.Text
