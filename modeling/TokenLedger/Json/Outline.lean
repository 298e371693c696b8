import TokenLedger.Json.Basic
import TokenLedger.Json.Fault
/-!
What a text shows where JSON is expected, with its flaws in place.

Which flaw or misfit of a text is reported depends on what is wanted of it: a reader goes through
the text from the left and stops at the first thing that it cannot use, be it a flaw of the text or
a value of the wrong type; and a value that nobody wants is passed over with fewer demands. An
outline therefore keeps every flaw at the place where it stands, and every string and number with
two answers: what it says if it is wanted, and whether it can be passed over.

* `Outline.mismatch`: the fault of a value whose type is not the wanted one.
* `Outline.passOver`: the flaws of a value that nobody wants.
* `Outline.keep`: the flaws of a value that is kept for later; here nesting is limited.
* `Json.outline`: the outline of the text of a JSON value, which has no flaws.
-/

namespace TokenLedger.Json

/-- What a text shows from some point on. -/
inductive Outline where
  /-- The text ends where a value was due. -/
  | absent
  /-- A character that no value begins with, or a word that is none of the three. -/
  | broken (flaw : Flaw)
  | null
  | boolean (value : Bool)
  | number (wanted : Except Flaw Number) (passed : Except Flaw Unit)
  | string (wanted : Except Flaw String) (passed : Except Flaw Unit)
  /-- Some items, and whether the array is closed after them. -/
  | array (items : List Outline) (finish : Except Flaw Unit)
  /-- Some members, and whether the object is closed after them. What stands in place of a name may
  be anything; when it is no string, nothing follows it. -/
  | object (members : List (Outline × Outline)) (finish : Except Flaw Unit)

/-! ### What a value is when another was wanted -/

/-- The flaw of a value, or what it is. An array and an object are what they are from their first
character on. -/
def Outline.found : Outline → Except Flaw Found
  | .absent => .error .truncated
  | .broken flaw => .error flaw
  | .null => .ok .null
  | .boolean value => .ok (.boolean value)
  | .number wanted _ => wanted.map .number
  | .string wanted _ => wanted.map .string
  | .array _ _ => .ok .sequence
  | .object _ _ => .ok .map

/-- The fault of a value that is not of the wanted type. -/
def Outline.mismatch (outline : Outline) (wanted : String) : Fault :=
  match outline.found with
  | .error flaw => .flawed flaw
  | .ok found => .unfit (.wrongType found wanted)

/-- Reads a value that is a part of another. -/
def readPart {α : Type} (read : Outline → Except Fault α) (part : Outline) : Except Fault α :=
  (read part).mapError Fault.place

/-! ### Values that are passed over or kept -/

/-- The name of a member when it is wanted. -/
def Outline.name : Outline → Except Flaw String
  | .string wanted _ => wanted
  | .absent => .error .truncated
  | _ => .error .malformed

/-- Passes over the name of a member. -/
def Outline.passName : Outline → Except Flaw Unit
  | .string _ passed => passed
  | .absent => .error .truncated
  | _ => .error .malformed

namespace Outline

mutual

/-- Reports the first flaw of a value that nobody wants. -/
def passOver : Outline → Except Flaw Unit
  | .absent => .error .truncated
  | .broken flaw => .error flaw
  | .null | .boolean _ => .ok ()
  | .number _ passed | .string _ passed => passed
  | .array items finish => do
    passItems items
    finish
  | .object members finish => do
    passMembers members
    finish

/-- Reports the first flaw of items that nobody wants. -/
def passItems : List Outline → Except Flaw Unit
  | [] => .ok ()
  | item :: rest => do
    passOver item
    passItems rest

/-- Reports the first flaw of members that nobody wants. -/
def passMembers : List (Outline × Outline) → Except Flaw Unit
  | [] => .ok ()
  | (key, value) :: rest => do
    key.passName
    passOver value
    passMembers rest

end

mutual

/-- Reports the first flaw of a value that is kept, in which arrays and objects may be nested to a
depth of `room`. -/
def keep (room : Nat) : Outline → Except Flaw Unit
  | .absent => .error .truncated
  | .broken flaw => .error flaw
  | .null | .boolean _ => .ok ()
  | .number wanted _ => wanted.map fun _ => ()
  | .string wanted _ => wanted.map fun _ => ()
  | .array items finish => do
    if room = 0 then throw .malformed
    keepItems (room - 1) items
    finish
  | .object members finish => do
    if room = 0 then throw .malformed
    keepMembers (room - 1) members
    finish

/-- Reports the first flaw of items that are kept. -/
def keepItems (room : Nat) : List Outline → Except Flaw Unit
  | [] => .ok ()
  | item :: rest => do
    keep room item
    keepItems room rest

/-- Reports the first flaw of members that are kept. -/
def keepMembers (room : Nat) : List (Outline × Outline) → Except Flaw Unit
  | [] => .ok ()
  | (key, value) :: rest => do
    let _ ← key.name
    keep room value
    keepMembers room rest

end

end Outline

/-! ### The outline of a value -/

mutual

/-- The outline of the text of a value. -/
def outline : Json → Outline
  | .null => .null
  | .boolean value => .boolean value
  | .number value => .number (.ok value) (.ok ())
  | .string value => .string (.ok value) (.ok ())
  | .array items => .array (outlines items) (.ok ())
  | .object members => .object (memberOutlines members) (.ok ())

/-- The outlines of items. -/
def outlines : List Json → List Outline
  | [] => []
  | item :: rest => outline item :: outlines rest

/-- The outlines of members. -/
def memberOutlines : List (String × Json) → List (Outline × Outline)
  | [] => []
  | (name, value) :: rest => (.string (.ok name) (.ok ()), outline value) :: memberOutlines rest

end

end TokenLedger.Json
