import TokenLedger.Json.Number
import TokenLedger.Json.Position
import TokenLedger.Text.Quoted
/-!
Why a text cannot be read as a value.

Either the text is not JSON (`Flaw`): it ends too early, or it goes on as no JSON text does. Or it
is JSON as far as it was read, but what it says does not fit what was wanted (`Misfit`); only then
is there a message.
-/

namespace TokenLedger.Json

/-- How a text fails to be JSON. -/
inductive Flaw where
  /-- The text ends before its value does. -/
  | truncated
  /-- The text goes on in a way that JSON does not allow. -/
  | malformed
deriving DecidableEq, Repr

/-- What a text shows where something else was wanted. -/
inductive Found where
  | null
  | boolean (value : Bool)
  | number (value : Number)
  | string (value : String)
  | sequence
  | map
  /-- The name of a variant alone, where the variant has content. -/
  | variantName
deriving Repr

/-- A word between backticks. -/
def ticked (word : String) : String := "`" ++ word ++ "`"

def Found.text : Found → String
  | .null => "null"
  | .boolean value => "boolean " ++ ticked (toString value)
  | .number (.float value) => "floating point " ++ ticked (Number.text (.float value))
  | .number value => "integer " ++ ticked value.text
  | .string value => "string " ++ Text.quote value
  | .sequence => "sequence"
  | .map => "map"
  | .variantName => "unit variant"

/-- How a JSON text fails to fit what was wanted. -/
inductive Misfit where
  | wrongType (found : Found) (wanted : String)
  /-- The number is of the wanted kind and outside its range. -/
  | outOfRange (found : Number) (wanted : String)
  | wrongLength (length : Nat) (wanted : String)
  | missingField (name : String)
  | duplicateField (name : String)
  | unknownVariant (name : String) (variants : List String)
  /-- The value was read and did not pass its own check; `placed` says whether it is known where in
  the text that was. -/
  | rejected (reason : String) (placed : Bool)
deriving Repr

/-- Names to choose from. -/
def alternatives : List String → String
  | [] => "there are no variants"
  | [only] => "expected " ++ ticked only
  | [first, second] => "expected " ++ ticked first ++ " or " ++ ticked second
  | names => "expected one of " ++ String.intercalate ", " (names.map ticked)

/-- The misfit of a value that is refused for a reason. A reason that ends with a position is about
that place, and says the rest; line zero is no place. -/
def Misfit.rejection (reason : String) : Misfit :=
  match splitPosition? reason.toList with
  | some (before, position) =>
    if position.isCountable then .rejected (String.ofList before) (position.line != 0)
    else .rejected reason false
  | none => .rejected reason false

/-- What the misfit is, without the place where it is. A reason that is not placed is shown without
the position that it ends with, if there is one. -/
def Misfit.message : Misfit → String
  | .wrongType found wanted => "invalid type: " ++ found.text ++ ", expected " ++ wanted
  | .outOfRange found wanted =>
    "invalid value: " ++ (Found.number found).text ++ ", expected " ++ wanted
  | .wrongLength length wanted => "invalid length " ++ toString length ++ ", expected " ++ wanted
  | .missingField name => "missing field " ++ ticked name
  | .duplicateField name => "duplicate field " ++ ticked name
  | .unknownVariant name variants =>
    "unknown variant " ++ ticked name ++ ", " ++ alternatives variants
  | .rejected reason true => reason
  | .rejected reason false => withoutPosition reason

/-- Why a text cannot be read as a value. -/
inductive Fault where
  | flawed (flaw : Flaw)
  | unfit (misfit : Misfit)
deriving Repr

/-- The fault of a part as the fault of the whole, which knows where the part is. -/
def Fault.place : Fault → Fault
  | .unfit (.rejected reason _) => .unfit (.rejected reason true)
  | other => other

/-- The sentence that reports the fault, if there is more to say than that the text is flawed. -/
def Fault.message? : Fault → Option String
  | .flawed _ => none
  | .unfit misfit => some misfit.message

/-- A check of the text alone, as a step of reading a value. -/
def sound {α : Type} (check : Except Flaw α) : Except Fault α :=
  check.mapError .flawed

end TokenLedger.Json
