import Mathlib.Data.List.Forall2
import TokenLedger.Proposal.Canonical
/-!
Encodings that say where they end.

The canonical bytes have no separators. That they can be told apart all the same rests on one
property of every part (`Framed`): from the bytes of a value, and whatever bytes follow them, both
the value and the rest can be made out.

* `Framed.of_length`: an injective encoding of a fixed width is framed.
* `Framed.append` and `Framed.on`: so is a record whose parts are framed.
* `framed_text` and `Framed.list`: so are texts and lists, since their length comes first. This
  needs lengths that eight bytes can hold.
-/

namespace TokenLedger

/-! ### Numbers -/

/-- A number that the width can hold is determined by its bytes. -/
theorem littleEndian_injective {width left right : Nat} (leftFits : left < Nat.pow 256 width)
    (rightFits : right < Nat.pow 256 width)
    (same : littleEndian width left = littleEndian width right) : left = right := by
  have read := congrArg ofLittleEndian same
  rw [ofLittleEndian_littleEndian, ofLittleEndian_littleEndian, Nat.mod_eq_of_lt leftFits,
    Nat.mod_eq_of_lt rightFits] at read
  exact read

namespace Canonical

/-! ### Framed encodings -/

/-- Two values that fit, each followed by some bytes, have the same bytes in all only if they are
the same in the sense given and the bytes that follow are the same. -/
def Framed {α : Type} (fits : α → Prop) (same : α → α → Prop) (encode : α → List UInt8) : Prop :=
  ∀ left right, fits left → fits right → ∀ leftRest rightRest,
    encode left ++ leftRest = encode right ++ rightRest →
      same left right ∧ leftRest = rightRest

namespace Framed

variable {α β : Type} {fits fits' : α → Prop} {same same' : α → α → Prop}
  {encode encode' : α → List UInt8}

/-- A framed encoding determines its values. -/
theorem same_of_eq (framed : Framed fits same encode) {left right : α} (leftFits : fits left)
    (rightFits : fits right) (equal : encode left = encode right) : same left right := by
  have followed : encode left ++ [] = encode right ++ [] := by rw [equal]
  exact (framed left right leftFits rightFits [] [] followed).1

/-- An injective encoding of a fixed width is framed. -/
theorem of_length {width : Nat} (length_eq : ∀ value, (encode value).length = width)
    (injective : ∀ left right, fits left → fits right → encode left = encode right →
      same left right) : Framed fits same encode := by
  intro left right leftFits rightFits leftRest rightRest equal
  have lengths : (encode left).length = (encode right).length := by
    rw [length_eq, length_eq]
  obtain ⟨bytes, rests⟩ := List.append_inj equal lengths
  exact ⟨injective left right leftFits rightFits bytes, rests⟩

/-- One framed encoding after another. -/
theorem append (first : Framed fits same encode) (second : Framed fits' same' encode') :
    Framed (fun value => fits value ∧ fits' value)
      (fun left right => same left right ∧ same' left right)
      (fun value => encode value ++ encode' value) := by
  intro left right leftFits rightFits leftRest rightRest equal
  rw [List.append_assoc, List.append_assoc] at equal
  obtain ⟨one, later⟩ := first left right leftFits.1 rightFits.1 _ _ equal
  obtain ⟨two, rests⟩ := second left right leftFits.2 rightFits.2 _ _ later
  exact ⟨⟨one, two⟩, rests⟩

/-- A framed encoding of a part. -/
theorem on (framed : Framed fits same encode) (part : β → α) :
    Framed (fun value => fits (part value)) (fun left right => same (part left) (part right))
      (fun value => encode (part value)) :=
  fun left right => framed (part left) (part right)

/-- Fewer values fit, and more of them count as the same. -/
theorem imp (framed : Framed fits same encode) (fewer : ∀ value, fits' value → fits value)
    (more : ∀ left right, same left right → same' left right) : Framed fits' same' encode := by
  intro left right leftFits rightFits leftRest rightRest equal
  obtain ⟨alike, rests⟩ :=
    framed left right (fewer left leftFits) (fewer right rightFits) leftRest rightRest equal
  exact ⟨more left right alike, rests⟩

/-- Elements that follow each other are framed once their number is known. -/
theorem flatMap (framed : Framed fits same encode) {left right : List α}
    (lengths : left.length = right.length) (leftFits : ∀ value ∈ left, fits value)
    (rightFits : ∀ value ∈ right, fits value) {leftRest rightRest : List UInt8}
    (equal : left.flatMap encode ++ leftRest = right.flatMap encode ++ rightRest) :
    List.Forall₂ same left right ∧ leftRest = rightRest := by
  induction left generalizing right with
  | nil =>
    have empty : right = [] := List.length_eq_zero_iff.mp lengths.symm
    rw [empty] at equal ⊢
    exact ⟨.nil, equal⟩
  | cons head tail ih =>
    cases right with
    | nil => cases lengths
    | cons head' tail' =>
      rw [List.flatMap_cons, List.flatMap_cons, List.append_assoc, List.append_assoc] at equal
      obtain ⟨heads, later⟩ := framed head head' (leftFits _ List.mem_cons_self)
        (rightFits _ List.mem_cons_self) _ _ equal
      obtain ⟨tails, rests⟩ := ih (Nat.succ.inj lengths)
        (fun value found => leftFits value (List.mem_cons_of_mem _ found))
        (fun value found => rightFits value (List.mem_cons_of_mem _ found)) later
      exact ⟨.cons heads tails, rests⟩

end Framed

/-! ### Numbers, texts and lists -/

/-- A length or a count that eight bytes can hold. -/
def FitsCount (number : Nat) : Prop := number < UInt64.size

instance (number : Nat) : Decidable (FitsCount number) :=
  inferInstanceAs (Decidable (number < UInt64.size))

theorem framed_littleEndian (width : Nat) :
    Framed (· < Nat.pow 256 width) Eq (littleEndian width) :=
  .of_length (length_littleEndian width) fun _ _ => littleEndian_injective

theorem framed_count : Framed FitsCount Eq count := framed_littleEndian 8

/-- A text whose UTF-8 encoding has a length that fits. -/
def FitsText (value : String) : Prop := FitsCount (utf8 value).length

instance (value : String) : Decidable (FitsText value) :=
  inferInstanceAs (Decidable (FitsCount (utf8 value).length))

theorem framed_text : Framed FitsText Eq text := by
  intro left right leftFits rightFits leftRest rightRest equal
  rw [text, text, List.append_assoc, List.append_assoc] at equal
  obtain ⟨lengths, later⟩ := framed_count _ _ leftFits rightFits _ _ equal
  obtain ⟨bytes, rests⟩ := List.append_inj later lengths
  exact ⟨utf8_injective bytes, rests⟩

theorem framed_bytes32 : Framed (fun _ => True) Eq Bytes32.toList :=
  .of_length Bytes32.length_toList fun _ _ _ _ => Bytes32.ext

/-- A list whose length fits, and every element of it. -/
def FitsList {α : Type} (fits : α → Prop) (values : List α) : Prop :=
  FitsCount values.length ∧ ∀ value ∈ values, fits value

instance {α : Type} (fits : α → Prop) [DecidablePred fits] (values : List α) :
    Decidable (FitsList fits values) :=
  inferInstanceAs (Decidable (FitsCount values.length ∧ ∀ value ∈ values, fits value))

theorem Framed.list {α : Type} {fits : α → Prop} {same : α → α → Prop}
    {element : α → List UInt8} (framed : Framed fits same element) :
    Framed (FitsList fits) (List.Forall₂ same) (list element) := by
  intro left right leftFits rightFits leftRest rightRest equal
  rw [Canonical.list, Canonical.list, List.append_assoc, List.append_assoc] at equal
  obtain ⟨lengths, later⟩ := framed_count _ _ leftFits.1 rightFits.1 _ _ equal
  exact framed.flatMap lengths leftFits.2 rightFits.2 later

/-- Lists whose elements have the same bytes one by one have the same bytes. -/
theorem list_congr {α : Type} {same : α → α → Prop} {element : α → List UInt8}
    (alike : ∀ left right, same left right → element left = element right) {left right : List α}
    (agree : List.Forall₂ same left right) : list element left = list element right := by
  have elements : left.map element = right.map element := by
    rw [← List.forall₂_eq_eq_eq, List.forall₂_map_left_iff, List.forall₂_map_right_iff]
    exact agree.imp alike
  rw [Canonical.list, Canonical.list, agree.length_eq, List.flatMap_def, List.flatMap_def, elements]

end Canonical

end TokenLedger
