import TokenLedger.Json.Choice
import TokenLedger.Json.Record
import TokenLedger.Proofs.Json.Printing
/-!
Values that survive being written and read.

`Codec.Survives` says of a value that it is written with natural numbers only, and read back from
what it is written as. Its text is then decoded as the value (`Codec.Survives.decode_print`). A
value survives if its parts do:

* `Codec.Survives.convert` and `Codec.Survives.checked`: a codec made from another keeps what the
  other keeps, if the change of type is undone by the way back and the check passes;
* `Codec.survives_list` and `Codec.survives_count`: a list survives with its items;
* `Codec.survives_record`: a record survives with its fields, if their names are distinct. They are
  stored one by one, and the members that are still to come never name a field before
  (`Fields.storeAll_write`).
-/

namespace TokenLedger.Json

namespace Codec

variable {α β : Type}

/-- The value is read back from what it is written as, which has natural numbers only. -/
structure Survives (codec : Codec α) (value : α) : Prop where
  read_write : codec.read (codec.write value).outline = .ok value
  plain : (codec.write value).Plain

/-- **A value that survives is decoded from its text.** -/
theorem Survives.decode_print {codec : Codec α} {value : α} (survives : codec.Survives value) :
    decode codec.read (codec.write value).print = .ok value := by
  rw [decode, scan_print survives.plain]
  dsimp only
  rw [survives.read_write]
  rfl

/-! ### Strings and numbers -/

theorem survives_string (value : String) : string.Survives value := ⟨rfl, .string value⟩

theorem survives_natural {wanted : String} {most : Nat} {ofNat : Nat → α} {toNat : α → Nat}
    {value : α} (small : toNat value ≤ most) (fits : most < UInt64.size)
    (inverse : ofNat (toNat value) = value) : (natural wanted most ofNat toNat).Survives value := by
  have read : (UInt64.ofNat (toNat value)).toNat = toNat value :=
    UInt64.toNat_ofNat_of_lt' (Nat.lt_of_le_of_lt small fits)
  refine ⟨?_, .natural _⟩
  show (if (UInt64.ofNat (toNat value)).toNat ≤ most then _ else _) = _
  rw [read, if_pos small, inverse]

theorem survives_byte (value : UInt8) : byte.Survives value :=
  survives_natural (Nat.le_sub_one_of_lt value.toNat_lt) (by decide) UInt8.ofNat_toNat

theorem survives_word32 (value : UInt32) : word32.Survives value :=
  survives_natural (Nat.le_sub_one_of_lt value.toNat_lt) (by decide) UInt32.ofNat_toNat

theorem survives_word64 (value : UInt64) : word64.Survives value :=
  survives_natural (Nat.le_sub_one_of_lt value.toNat_lt) (by decide) UInt64.ofNat_toNat

/-! ### Change of type -/

theorem Survives.convert {codec : Codec α} {make : α → β} {parts : β → α} {value : β}
    (survives : codec.Survives (parts value)) (inverse : make (parts value) = value) :
    (codec.convert make parts).Survives value := by
  refine ⟨?_, survives.plain⟩
  show (codec.read (codec.write (parts value)).outline).map make = _
  rw [survives.read_write]
  exact congrArg Except.ok inverse

theorem Survives.checked {codec : Codec α} {make : α → Except String β} {parts : β → α} {value : β}
    (survives : codec.Survives (parts value)) (passes : make (parts value) = .ok value) :
    (codec.checked make parts).Survives value := by
  refine ⟨?_, survives.plain⟩
  show (codec.read (codec.write (parts value)).outline >>= fun value =>
    (make value).mapError _) = _
  rw [survives.read_write]
  show (make (parts value)).mapError _ = _
  rw [passes]
  rfl

/-! ### Lists -/

variable {codec : Codec α} {values : List α}

theorem readPart_of_survives {value : α} (survives : codec.Survives value) :
    readPart codec.read (codec.write value).outline = .ok value := by
  rw [readPart, survives.read_write]
  rfl

theorem readItems_of_survives (survive : ∀ value ∈ values, codec.Survives value) :
    readItems codec.read (outlines (values.map codec.write)) = .ok values := by
  induction values with
  | nil => rfl
  | cons value values ih =>
    rw [List.map_cons, outlines, readItems,
      readPart_of_survives (survive value List.mem_cons_self),
      ih fun other found => survive other (List.mem_cons_of_mem _ found)]
    rfl

theorem plain_array (survive : ∀ value ∈ values, codec.Survives value) :
    (Json.array (values.map codec.write)).Plain := by
  refine .array fun item found => ?_
  obtain ⟨value, listed, rfl⟩ := List.mem_map.mp found
  exact (survive value listed).plain

/-- A list survives with its items. -/
theorem survives_list (survive : ∀ value ∈ values, codec.Survives value) :
    (list codec).Survives values := by
  refine ⟨?_, plain_array survive⟩
  show (do
    let values ← readItems codec.read (outlines (values.map codec.write))
    sound (.ok ())
    return values) = _
  rw [readItems_of_survives survive]
  rfl

theorem readCount_of_survives {wanted : String} (taken : Nat)
    (survive : ∀ value ∈ values, codec.Survives value) :
    readCount codec.read wanted (.ok ()) taken values.length (outlines (values.map codec.write)) =
      .ok (values, []) := by
  induction values generalizing taken with
  | nil => rfl
  | cons value values ih =>
    rw [List.map_cons, outlines, List.length_cons, readCount,
      readPart_of_survives (survive value List.mem_cons_self),
      ih (taken + 1) fun other found => survive other (List.mem_cons_of_mem _ found)]
    rfl

/-- A list of the right length survives with its items. -/
theorem survives_count (survive : ∀ value ∈ values, codec.Survives value) :
    (count values.length codec).Survives values := by
  refine ⟨?_, plain_array survive⟩
  simp only [count, outline, readCount_of_survives 0 survive]
  rfl

end Codec

/-! ### Records -/

namespace Fields

/-- Every field of the record survives. -/
def Survive : {types : List Type} → Fields types → Values types → Prop
  | _, .none, _ => True
  | _, .cons field rest, (value, values) => field.codec.Survives value ∧ rest.Survive values

/-- All slots filled. -/
def filled : {types : List Type} → Fields types → Values types → Slots types
  | _, .none, _ => ()
  | _, .cons _ rest, (value, values) => (some value, rest.filled values)

variable {α : Type} {types : List Type}

theorem store_cons_of_ne {field : Field α} {rest : Fields types} {name : String}
    (other : field.name ≠ name) (member : Outline) (slot : Option α) (slots : Slots types) :
    (Fields.cons field rest).store name member (slot, slots) =
      (rest.store name member slots).map fun slots => (slot, slots) := by
  have skipped : (Fields.cons field rest).store name member (slot, slots) =
      (rest.store name member slots >>= fun slots => .ok (slot, slots)) := if_neg other
  rw [skipped]
  cases rest.store name member slots <;> rfl

/-- Members that do not name the first field are stored in the others. -/
theorem storeAll_cons {field : Field α} {rest : Fields types} {members : List (String × Json)}
    (others : field.name ∉ members.map Prod.fst) (slot : Option α) (slots : Slots types) :
    (Fields.cons field rest).storeAll (memberOutlines members) (slot, slots) =
      (rest.storeAll (memberOutlines members) slots).map fun slots => (slot, slots) := by
  induction members generalizing slots with
  | nil => rfl
  | cons member members ih =>
    obtain ⟨name, value⟩ := member
    rw [List.map_cons, List.mem_cons, not_or] at others
    obtain ⟨other, others⟩ := others
    show ((Fields.cons field rest).store name value.outline (slot, slots) >>=
      (Fields.cons field rest).storeAll (memberOutlines members)) =
        (rest.store name value.outline slots >>= rest.storeAll (memberOutlines members)).map _
    rw [store_cons_of_ne other]
    cases rest.store name value.outline slots with
    | error fault => rfl
    | ok stored => exact ih others stored

theorem names_write : {types : List Type} → (fields : Fields types) → (values : Values types) →
    (fields.write values).map Prod.fst = fields.names
  | _, .none, _ => rfl
  | _, .cons field rest, (_, values) => congrArg (field.name :: ·) (rest.names_write values)

/-- What is written fills all slots. -/
theorem storeAll_write : {types : List Type} → (fields : Fields types) →
    (distinct : fields.names.Nodup) → {values : Values types} → (survive : fields.Survive values) →
    fields.storeAll (memberOutlines (fields.write values)) fields.empty =
      .ok (fields.filled values)
  | _, .none, _, _, _ => rfl
  | _, .cons field rest, distinct, (value, values), survive => by
    obtain ⟨survives, survive⟩ := survive
    obtain ⟨other, distinct⟩ := List.nodup_cons.mp distinct
    -- the first member goes into the first slot, and no later one names this field again
    rw [← rest.names_write values] at other
    have first : (Fields.cons field rest).store field.name (field.codec.write value).outline
        (Option.none, rest.empty) = .ok (some value, rest.empty) := by
      have stored : (Fields.cons field rest).store field.name (field.codec.write value).outline
          (Option.none, rest.empty) =
            (readPart field.codec.read (field.codec.write value).outline >>= fun value =>
              .ok (some value, rest.empty)) := if_pos rfl
      rw [stored, Codec.readPart_of_survives survives]
      rfl
    show ((Fields.cons field rest).store field.name (field.codec.write value).outline
      (Option.none, rest.empty) >>=
        (Fields.cons field rest).storeAll (memberOutlines (rest.write values))) = _
    rw [first]
    show (Fields.cons field rest).storeAll (memberOutlines (rest.write values))
      (some value, rest.empty) = _
    rw [storeAll_cons other, rest.storeAll_write distinct survive]
    rfl

theorem complete_filled : {types : List Type} → (fields : Fields types) → (values : Values types) →
    fields.complete (fields.filled values) = .ok values
  | _, .none, _ => rfl
  | _, .cons field rest, (value, values) => by
    show (rest.complete (rest.filled values) >>= fun values => .ok (value, values)) = _
    rw [rest.complete_filled values]
    rfl

theorem plain_write : {types : List Type} → (fields : Fields types) → {values : Values types} →
    (survive : fields.Survive values) → ∀ member ∈ fields.write values, member.2.Plain
  | _, .none, _, _ => nofun
  | _, .cons _ rest, (_, _), survive =>
    List.forall_mem_cons.mpr ⟨survive.1.plain, rest.plain_write survive.2⟩

end Fields

/-- A record survives with its fields. -/
theorem Codec.survives_record {types : List Type} {title : String} {fields : Fields types}
    {values : Values types} (distinct : fields.names.Nodup) (survive : fields.Survive values) :
    (Codec.record title fields).Survives values := by
  refine ⟨?_, .object (fields.plain_write survive)⟩
  show (do
    let slots ← fields.storeAll (memberOutlines (fields.write values)) fields.empty
    sound (.ok ())
    fields.complete slots) = _
  rw [fields.storeAll_write distinct survive]
  exact fields.complete_filled values

end TokenLedger.Json
