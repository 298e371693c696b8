import TokenLedger.Json.Record
import TokenLedger.Json.Scan
/-!
What a codec can read, over all texts.

`Codec.Reads` says that a value is read from some text, whatever it looks like: an object or an
array, its members in any order, with others in between. What is known about the parts of a value
that was read comes from the codecs of the parts:

* `Codec.Reads.of_convert`, `Codec.Reads.of_checked`: a codec made from another reads what the
  other reads, and what passes the check;
* `Codec.Reads.of_list`: every item of a list was read as an item;
* `Codec.Reads.of_record`: every field of a record was read by the codec of that field, or is the
  field's fallback.
-/

namespace TokenLedger.Json

/-! ### Steps that succeed -/

section Steps

variable {ε ε' α β : Type}

theorem exists_of_bind_eq_ok {first : Except ε α} {next : α → Except ε β} {value : β}
    (done : first >>= next = .ok value) :
    ∃ between, first = .ok between ∧ next between = .ok value := by
  cases first with
  | error cause => cases done
  | ok between => exact ⟨between, rfl, done⟩

theorem exists_of_map_eq_ok {first : Except ε α} {change : α → β} {value : β}
    (done : first.map change = .ok value) : ∃ before, first = .ok before ∧ change before = value := by
  cases first with
  | error cause => cases done
  | ok before => exact ⟨before, rfl, Except.ok.inj done⟩

theorem eq_ok_of_mapError_eq_ok {first : Except ε α} {change : ε → ε'} {value : α}
    (done : first.mapError change = .ok value) : first = .ok value := by
  cases first with
  | error cause => cases done
  | ok before => exact congrArg _ (Except.ok.inj done)

end Steps

namespace Codec

variable {α β : Type}

/-- The codec gives this value for some text. -/
def Reads (codec : Codec α) (value : α) : Prop := ∃ outline, codec.read outline = .ok value

theorem reads_of_decode {codec : Codec α} {text : String} {value : α}
    (decoded : decode codec.read text = .ok value) : codec.Reads value := by
  obtain ⟨found, read, rest_read⟩ := exists_of_bind_eq_ok decoded
  split at rest_read
  · cases rest_read
    exact ⟨_, read⟩
  · cases rest_read
  · cases rest_read

theorem reads_of_readPart {codec : Codec α} {part : Outline} {value : α}
    (read : readPart codec.read part = .ok value) : codec.Reads value :=
  ⟨part, eq_ok_of_mapError_eq_ok read⟩

theorem Reads.of_convert {codec : Codec α} {make : α → β} {parts : β → α} {value : β}
    (reads : (codec.convert make parts).Reads value) : ∃ before, codec.Reads before ∧
      make before = value := by
  obtain ⟨outline, read⟩ := reads
  obtain ⟨before, before_read, made⟩ := exists_of_map_eq_ok read
  exact ⟨before, ⟨outline, before_read⟩, made⟩

theorem Reads.of_checked {codec : Codec α} {make : α → Except String β} {parts : β → α}
    {value : β} (reads : (codec.checked make parts).Reads value) :
    ∃ before, codec.Reads before ∧ make before = .ok value := by
  obtain ⟨outline, read⟩ := reads
  obtain ⟨before, before_read, passed⟩ := exists_of_bind_eq_ok read
  exact ⟨before, ⟨outline, before_read⟩, eq_ok_of_mapError_eq_ok passed⟩

theorem reads_of_mem_readItems {codec : Codec α} {items : List Outline} {values : List α}
    (read : readItems codec.read items = .ok values) : ∀ value ∈ values, codec.Reads value := by
  induction items generalizing values with
  | nil =>
    cases read
    exact fun _ absent => absurd absent List.not_mem_nil
  | cons item rest ih =>
    obtain ⟨first, first_read, rest_read⟩ := exists_of_bind_eq_ok read
    obtain ⟨others, others_read, done⟩ := exists_of_bind_eq_ok rest_read
    cases done
    exact List.forall_mem_cons.mpr ⟨reads_of_readPart first_read, ih others_read⟩

theorem Reads.of_list {codec : Codec α} {values : List α} (reads : (list codec).Reads values) :
    ∀ value ∈ values, codec.Reads value := by
  obtain ⟨outline, read⟩ := reads
  unfold list at read
  dsimp only at read
  split at read
  · obtain ⟨items, items_read, finish_read⟩ := exists_of_bind_eq_ok read
    obtain ⟨_, -, done⟩ := exists_of_bind_eq_ok finish_read
    cases done
    exact reads_of_mem_readItems items_read
  · cases read

end Codec

/-! ### Records -/

namespace Fields

/-- Every value was read by the codec of its field, or is the fallback of it. -/
def Reads : {types : List Type} → Fields types → Values types → Prop
  | _, .none, _ => True
  | _, .cons field rest, (value, values) =>
    (field.codec.Reads value ∨ field.fallback = some value) ∧ rest.Reads values

/-- Every value in a slot was read by the codec of its field. -/
def Holds : {types : List Type} → Fields types → Slots types → Prop
  | _, .none, _ => True
  | _, .cons field rest, (slot, slots) =>
    (∀ value, slot = some value → field.codec.Reads value) ∧ rest.Holds slots

theorem holds_empty : {types : List Type} → (fields : Fields types) → fields.Holds fields.empty
  | _, .none => trivial
  | _, .cons _ rest => ⟨nofun, rest.holds_empty⟩

theorem holds_store {types : List Type} (fields : Fields types) {name : String} {member : Outline}
    {slots next : Slots types} (holds : fields.Holds slots)
    (stored : fields.store name member slots = .ok next) : fields.Holds next := by
  fun_induction fields.store name member slots with
  | case1 => trivial
  | case2 => cases stored
  | case3 =>
    obtain ⟨value, read, done⟩ := exists_of_bind_eq_ok stored
    cases done
    refine ⟨fun held same => ?_, holds.2⟩
    cases same
    exact Codec.reads_of_readPart read
  | case4 α types field rest name member slot slots different ih =>
    obtain ⟨others, others_stored, done⟩ := exists_of_bind_eq_ok stored
    cases done
    exact ⟨holds.1, ih holds.2 others_stored⟩

theorem holds_storeAll {types : List Type} (fields : Fields types)
    {members : List (Outline × Outline)} {slots next : Slots types} (holds : fields.Holds slots)
    (stored : fields.storeAll members slots = .ok next) : fields.Holds next := by
  induction members generalizing slots with
  | nil =>
    cases stored
    exact holds
  | cons member rest ih =>
    obtain ⟨name, -, first_stored⟩ := exists_of_bind_eq_ok stored
    obtain ⟨between, member_stored, rest_stored⟩ := exists_of_bind_eq_ok first_stored
    exact ih (fields.holds_store holds member_stored) rest_stored

theorem reads_complete {types : List Type} (fields : Fields types) {slots : Slots types}
    {values : Values types} (holds : fields.Holds slots)
    (completed : fields.complete slots = .ok values) : fields.Reads values := by
  fun_induction fields.complete slots with
  | case1 => trivial
  | case2 α types field rest slot slots value given ih =>
    obtain ⟨others, others_completed, done⟩ := exists_of_bind_eq_ok completed
    cases done
    refine ⟨?_, ih holds.2 others_completed⟩
    cases slot with
    | none => exact Or.inr given
    | some held => exact Or.inl (holds.1 value given)
  | case3 => cases completed

theorem reads_fill {types : List Type} (fields : Fields types) {wanted : String}
    {finish : Except Flaw Unit} {taken : Nat} {items left : List Outline} {values : Values types}
    (filled : fields.fill wanted finish taken items = .ok (values, left)) :
    fields.Reads values := by
  induction fields generalizing taken items left with
  | none => trivial
  | cons field rest ih =>
    cases items with
    | nil =>
      unfold fill at filled
      obtain ⟨_, -, fallen⟩ := exists_of_bind_eq_ok filled
      split at fallen
      · rename_i value fallback
        obtain ⟨⟨others, unread⟩, others_filled, done⟩ := exists_of_bind_eq_ok fallen
        cases done
        exact ⟨Or.inr fallback, ih others_filled⟩
      · cases fallen
    | cons item items =>
      unfold fill at filled
      obtain ⟨value, read, others_read⟩ := exists_of_bind_eq_ok filled
      obtain ⟨⟨others, unread⟩, others_filled, done⟩ := exists_of_bind_eq_ok others_read
      cases done
      exact ⟨Or.inl (Codec.reads_of_readPart read), ih others_filled⟩

end Fields

/-- **Every field of a record that was read** was read by the codec of that field, or is its
fallback. -/
theorem Codec.Reads.of_record {types : List Type} {title : String} {fields : Fields types}
    {values : Values types} (reads : (Codec.record title fields).Reads values) :
    fields.Reads values := by
  obtain ⟨outline, read⟩ := reads
  change fields.read title outline = .ok values at read
  unfold Fields.read at read
  split at read
  · obtain ⟨slots, stored, finish_read⟩ := exists_of_bind_eq_ok read
    obtain ⟨_, -, completed⟩ := exists_of_bind_eq_ok finish_read
    exact fields.reads_complete (fields.holds_storeAll fields.holds_empty stored) completed
  · obtain ⟨⟨filled, left⟩, items_read, rest_read⟩ := exists_of_bind_eq_ok read
    have given : filled = values := by
      dsimp only at rest_read
      split at rest_read
      · obtain ⟨_, -, done⟩ := exists_of_bind_eq_ok rest_read
        exact Except.ok.inj done
      · cases rest_read
    rw [← given]
    exact fields.reads_fill items_read
  · cases read

end TokenLedger.Json
