/-!
Positions at the end of a sentence.

A sentence about a text may end with the place it is about, a line and a column, as in
` at line 3 column 14`. `splitPosition?` takes a sentence apart into what it says and the place.
-/

namespace TokenLedger.Json

/-- A place in a text. -/
structure Position where
  line : Nat
  column : Nat
deriving DecidableEq, Repr

namespace Position

/-- Whether both numbers fit sixty-four bits. -/
def isCountable (position : Position) : Bool :=
  position.line < UInt64.size && position.column < UInt64.size

/-- The number that a list of characters stands for, if all of them are digits and there is one. -/
def number? (chars : List Char) : Option Nat :=
  if chars.isEmpty || !chars.all Char.isDigit then none
  else some (chars.foldl (fun number digit => number * 10 + (digit.toNat - '0'.toNat)) 0)

/-- What stands before the line. -/
def beforeLine : List Char := " at line ".toList

/-- What stands between the line and the column. -/
def beforeColumn : List Char := " column ".toList

/-- Reads the two numbers from where the line begins to the end. -/
def ofNumbers? (chars : List Char) : Option Position :=
  let digits := chars.takeWhile Char.isDigit
  let rest := chars.drop digits.length
  match number? digits, number? (rest.drop beforeColumn.length) with
  | some line, some column =>
    if rest.take beforeColumn.length == beforeColumn then some ⟨line, column⟩ else none
  | _, _ => none

end Position

/-- What a sentence says before the position that it ends with, and the position. -/
def splitPosition? (sentence : List Char) : Option (List Char × Position) :=
  let starts := (List.range (sentence.length + 1)).filter fun start =>
    (sentence.drop start).take Position.beforeLine.length == Position.beforeLine
  match starts.getLast? with
  | some start =>
    (Position.ofNumbers? (sentence.drop (start + Position.beforeLine.length))).map
      fun position => (sentence.take start, position)
  | none => none

/-- A sentence without the position that it ends with, if there is one. -/
def withoutPosition (sentence : String) : String :=
  match splitPosition? sentence.toList with
  | some (before, _) => String.ofList before
  | none => sentence

end TokenLedger.Json
