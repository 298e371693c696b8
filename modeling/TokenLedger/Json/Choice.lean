import TokenLedger.Json.Outline
/-!
Choices: values of which each is one of several named variants.

A variant without content is written as its name. One with content is written as an object with a
single member, whose name is the variant's and whose value is the content; a variant without content
may also be read from such an object, with null in place of the content.
-/

namespace TokenLedger.Json

/-- What a variant is made of. -/
inductive Content (α : Type) where
  /-- The variant is a value. -/
  | alone (value : α)
  /-- The variant holds one value without a name. -/
  | single (read : Outline → Except Fault α)
  /-- The variant holds named fields. -/
  | fields (read : Outline → Except Fault α)

/-- A variant with its name. -/
structure Variant (α : Type) where
  name : String
  content : Content α

namespace Variant

variable {α : Type}

/-- The content of the variant with a name. -/
def find (variants : List (Variant α)) (name : String) : Except Fault (Content α) :=
  match variants.find? fun variant => variant.name = name with
  | some variant => .ok variant.content
  | none => .error (.unfit (.unknownVariant name (variants.map Variant.name)))

/-- Reads a variant that is given by its name alone. -/
def readAlone : Content α → Except Fault α
  | .alone value => .ok value
  | .single _ => .error (.unfit (.wrongType .variantName "newtype variant"))
  | .fields _ => .error (.unfit (.wrongType .variantName "struct variant"))

/-- Reads a variant that is given by its name and its content. -/
def readContent (outline : Outline) : Content α → Except Fault α
  | .alone value =>
    match outline with
    | .null => .ok value
    | other => .error (other.mismatch "unit")
  | .single read | .fields read => readPart read outline

/-- Reads one of several variants. -/
def read (variants : List (Variant α)) : Outline → Except Fault α
  | .string wanted _ => do
    let name ← sound wanted
    let content ← find variants name
    readAlone content
  | .object ((key, member) :: rest) finish => do
    let name ← sound key.name
    let content ← find variants name
    let value ← readContent member content
    unless rest.isEmpty do throw (.flawed .malformed)
    sound finish
    return value
  | .object [] (.error flaw) => throw (.flawed flaw)
  | .absent => throw (.flawed .truncated)
  | _ => throw (.flawed .malformed)

end Variant

end TokenLedger.Json
