import TokenLedger.Bytes
import TokenLedger.Json.Numeral
import TokenLedger.Json.Outline
/-!
From text to outline.

The scan goes through a text once, from the left. It never fails: a flaw becomes a part of the
outline, and if nothing can be made of what follows it, the scan ends there.

A string is scanned in two steps. First its pieces are separated, each a character or a code unit of
sixteen bits, down to the closing quote; that much is asked of every string. Then, if the string is
wanted, the code units are joined: those outside the surrogates are characters, a leading surrogate
needs a trailing one right after it, and any other surrogate is malformed.

`scan` reads the text of one value; `Json.decode` reads a whole text as a value of some type.
-/

namespace TokenLedger.Json

/-- Whether a character is blank in JSON. -/
def isSpace (char : Char) : Bool :=
  char = ' ' || char = '\n' || char = '\t' || char = '\r'

/-- A list of characters without the blanks it starts with. -/
def skipSpace (chars : List Char) : List Char := chars.dropWhile isSpace

/-! ### Strings -/

/-- A part of a string. -/
inductive Piece where
  | char (value : Char)
  /-- A code unit given by four digits. -/
  | unit (value : Nat)
deriving DecidableEq, Repr

/-- The value of a digit in base sixteen, of either case. -/
def hexValue? (char : Char) : Option Nat :=
  if '0' ≤ char ∧ char ≤ '9' then some (char.toNat - 0x30)
  else if 'a' ≤ char ∧ char ≤ 'f' then some (char.toNat - 0x57)
  else if 'A' ≤ char ∧ char ≤ 'F' then some (char.toNat - 0x37)
  else none

/-- The code unit that four digits give. -/
def codeUnit? (first second third fourth : Char) : Option Nat := do
  let first ← hexValue? first
  let second ← hexValue? second
  let third ← hexValue? third
  let fourth ← hexValue? fourth
  return ((first * 16 + second) * 16 + third) * 16 + fourth

/-- The character that a backslash and a letter stand for. -/
def shortEscape? (char : Char) : Option Char :=
  if char = '"' ∨ char = '\\' ∨ char = '/' then some char
  else if char = 'b' then some '\x08'
  else if char = 'f' then some '\x0c'
  else if char = 'n' then some '\n'
  else if char = 'r' then some '\r'
  else if char = 't' then some '\t'
  else none

/-- The flaw of four digits that are not there: fewer than four bytes are left, or other characters
stand in their place. -/
def unitFlaw (rest : List Char) : Flaw :=
  if (String.ofList rest).utf8ByteSize < 4 then .truncated else .malformed

/-- The pieces of a string from after its opening quote, and what follows the closing quote or the
flaw that comes before it. -/
def scanPieces : List Char → List Piece × Except Flaw (List Char)
  | [] => ([], .error .truncated)
  | '"' :: rest => ([], .ok rest)
  | ['\\'] => ([], .error .truncated)
  | '\\' :: 'u' :: first :: second :: third :: fourth :: rest =>
    match codeUnit? first second third fourth with
    | some value =>
      let (pieces, after) := scanPieces rest
      (.unit value :: pieces, after)
    | none => ([], .error .malformed)
  | '\\' :: 'u' :: rest => ([], .error (unitFlaw rest))
  | '\\' :: letter :: rest =>
    match shortEscape? letter with
    | some char =>
      let (pieces, after) := scanPieces rest
      (.char char :: pieces, after)
    | none => ([], .error .malformed)
  | char :: rest =>
    if char.toNat < 0x20 then ([], .error .malformed)
    else
      let (pieces, after) := scanPieces rest
      (.char char :: pieces, after)

/-- Whether a code unit is the first half of a pair. -/
def isLeading (unit : Nat) : Bool := 0xd800 ≤ unit && unit ≤ 0xdbff

/-- Whether a code unit is the second half of a pair. -/
def isTrailing (unit : Nat) : Bool := 0xdc00 ≤ unit && unit ≤ 0xdfff

/-- The character that a pair of code units stands for. -/
def paired (leading trailing : Nat) : Char :=
  Char.ofNat (0x10000 + (leading - 0xd800) * 0x400 + (trailing - 0xdc00))

/-- The characters of pieces, after which the string ends as `finish` says. -/
def joinPieces (finish : Except Flaw Unit) : List Piece → Except Flaw (List Char)
  | [] => finish.map fun () => []
  | .char char :: rest => (joinPieces finish rest).map (char :: ·)
  | .unit leading :: .unit trailing :: rest =>
    if isLeading leading then
      if isTrailing trailing then
        (joinPieces finish rest).map (paired leading trailing :: ·)
      else .error .malformed
    else if isTrailing leading then .error .malformed
    else (joinPieces finish (.unit trailing :: rest)).map (Char.ofNat leading :: ·)
  | [.unit last] =>
    if isLeading last then finish.bind fun () => .error .malformed
    else if isTrailing last then .error .malformed
    else finish.map fun () => [Char.ofNat last]
  | .unit last :: .char char :: rest =>
    if isLeading last || isTrailing last then .error .malformed
    else (joinPieces finish (.char char :: rest)).map (Char.ofNat last :: ·)

/-- The string from after its opening quote, and what follows it. -/
def scanString (chars : List Char) : Outline × Option (List Char) :=
  let (pieces, after) := scanPieces chars
  let finish := after.map fun _ => ()
  (.string ((joinPieces finish pieces).map String.ofList) finish, after.toOption)

/-! ### Words and numbers -/

/-- What follows a word, of which the given characters are still expected. -/
def scanWord : List Char → List Char → Except Flaw (List Char)
  | [], rest => .ok rest
  | _ :: _, [] => .error .truncated
  | expected :: word, char :: rest =>
    if char = expected then scanWord word rest else .error .malformed

/-- The value that a word stands for, if the word is there, and what follows it. -/
def wordOutline (value : Outline) (word chars : List Char) : Outline × Option (List Char) :=
  match scanWord word chars with
  | .ok rest => (value, some rest)
  | .error flaw => (.broken flaw, none)

/-- A number, and what follows it. A number that is passed over has only to be complete. -/
def scanNumber (chars : List Char) : Outline × Option (List Char) :=
  match Numeral.scan chars with
  | .ok (numeral, rest) => (.number numeral.value (.ok ()), some rest)
  | .error flaw => (.number (.error flaw) (.error .malformed), none)

/-! ### Values -/

mutual

/-- The outline of the value that comes next, and what follows it. Each step of the recursion takes
one from `fuel`. -/
def scanValue : Nat → List Char → Outline × Option (List Char)
  | 0, _ => (.absent, none)
  | fuel + 1, chars =>
    match skipSpace chars with
    | [] => (.absent, none)
    | '"' :: rest => scanString rest
    | '[' :: rest =>
      match skipSpace rest with
      | ']' :: rest => (.array [] (.ok ()), some rest)
      | [] => (.array [] (.error .truncated), none)
      | rest =>
        let (items, finish, rest) := scanItems fuel rest
        (.array items finish, rest)
    | '{' :: rest =>
      match skipSpace rest with
      | '}' :: rest => (.object [] (.ok ()), some rest)
      | [] => (.object [] (.error .truncated), none)
      | rest =>
        let (members, finish, rest) := scanMembers fuel rest
        (.object members finish, rest)
    | 'n' :: rest => wordOutline .null "ull".toList rest
    | 't' :: rest => wordOutline (.boolean true) "rue".toList rest
    | 'f' :: rest => wordOutline (.boolean false) "alse".toList rest
    | char :: rest =>
      if char = '-' || char.isDigit then scanNumber (char :: rest)
      else (.broken .malformed, none)

/-- The outlines of the items of an array, the first of which comes next; whether the array is
closed after them, and what follows it. -/
def scanItems : Nat → List Char → List Outline × Except Flaw Unit × Option (List Char)
  | 0, _ => ([], .error .truncated, none)
  | fuel + 1, chars =>
    let (item, rest) := scanValue fuel chars
    match rest.map skipSpace with
    | none | some [] => ([item], .error .truncated, none)
    | some (',' :: rest) =>
      let (items, finish, rest) := scanItems fuel rest
      (item :: items, finish, rest)
    | some (']' :: rest) => ([item], .ok (), some rest)
    | some _ => ([item], .error .malformed, none)

/-- The outlines of the members of an object, the name of the first of which comes next; whether the
object is closed after them, and what follows it. -/
def scanMembers :
    Nat → List Char → List (Outline × Outline) × Except Flaw Unit × Option (List Char)
  | 0, _ => ([], .error .truncated, none)
  | fuel + 1, chars =>
    let (name, rest) := scanValue fuel chars
    match name, rest.map skipSpace with
    | .string _ _, some (':' :: rest) =>
      let (value, rest) := scanValue fuel rest
      match rest.map skipSpace with
      | none | some [] => ([(name, value)], .error .truncated, none)
      | some (',' :: rest) =>
        let (members, finish, rest) := scanMembers fuel rest
        ((name, value) :: members, finish, rest)
      | some ('}' :: rest) => ([(name, value)], .ok (), some rest)
      | some _ => ([(name, value)], .error .malformed, none)
    | .string _ _, some (_ :: _) => ([(name, .broken .malformed)], .error .malformed, none)
    | _, _ => ([(name, .absent)], .error .truncated, none)

end

/-- The outline of the value that a list of characters begins with, and what follows it. Between two
characters the recursion takes two steps at most. -/
def scan (chars : List Char) : Outline × Option (List Char) :=
  scanValue (2 * chars.length + 2) chars

/-- Reads a text that holds a value of some type and nothing else. -/
def decode {α : Type} (read : Outline → Except Fault α) (text : String) : Except Fault α := do
  let (outline, rest) := scan text.toList
  let value ← read outline
  match rest.map skipSpace with
  | some [] => return value
  | some _ => throw (.flawed .malformed)
  | none => throw (.flawed .truncated)

end TokenLedger.Json
