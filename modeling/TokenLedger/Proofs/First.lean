/-!
What comes first.

A check goes through a list and stops at the first element that it finds fault with. `FirstAt` says
which element that is without walking there: it is bad, and no element at a lower index is. Whether
an element is bad may depend on what stands before it, so that a walk which remembers what it saw
is one as well.

* `firstAt_cons_of_bad`, `firstAt_cons_of_fine`: one step of a walk.
* `NoneBad.concat`, `NoneBad.firstAt_concat`: one more element at the end of a list that is fine so
  far. What comes first stays so (`FirstAt.append`).
* `exists_firstAt`: where something is bad by itself there is a first.
* `findSome?_eq_some_iff`: rules that are gone through in an order report what the first broken one
  of them says (`FirstBroken`).
-/

namespace TokenLedger

/-- **The first bad element of a list**, and its index. -/
structure FirstAt {α : Type} (bad : List α → α → Prop) (list : List α) (index : Nat)
    (element : α) : Prop where
  found : list[index]? = some element
  isBad : bad (list.take index) element
  least : ∀ earlier other, earlier < index → list[earlier]? = some other →
    ¬ bad (list.take earlier) other

section FirstAt

variable {α : Type} {bad : List α → α → Prop} {head element : α} {rest : List α} {index : Nat}

theorem not_firstAt_nil : ¬ FirstAt bad [] index element := fun first => nomatch first.found

/-- A bad element at the head comes first. -/
theorem firstAt_cons_of_bad (now : bad [] head) :
    FirstAt bad (head :: rest) index element ↔ index = 0 ∧ element = head := by
  constructor
  · intro first
    cases index with
    | zero => exact ⟨rfl, (Option.some.inj first.found).symm⟩
    | succ later => exact absurd now (first.least 0 head (Nat.succ_pos later) rfl)
  · rintro ⟨rfl, rfl⟩
    exact ⟨rfl, now, fun earlier _ early => absurd early (Nat.not_lt_zero earlier)⟩

/-- After a head that is fine the first bad element is that of the rest, with the head before
it. -/
theorem firstAt_cons_of_fine (fine : ¬ bad [] head) :
    FirstAt bad (head :: rest) index element ↔
      ∃ later, index = later + 1 ∧
        FirstAt (fun before => bad (head :: before)) rest later element := by
  constructor
  · rintro ⟨found, isBad, least⟩
    cases index with
    | zero =>
      cases Option.some.inj found
      exact absurd isBad fine
    | succ later =>
      exact ⟨later, rfl, found, isBad, fun earlier other early =>
        least (earlier + 1) other (Nat.succ_lt_succ early)⟩
  · rintro ⟨later, rfl, found, isBad, least⟩
    refine ⟨found, isBad, fun earlier other early listed => ?_⟩
    cases earlier with
    | zero =>
      cases Option.some.inj listed
      exact fine
    | succ between => exact least between other (Nat.lt_of_succ_lt_succ early) listed

theorem FirstAt.lt {list : List α} (first : FirstAt bad list index element) :
    index < list.length :=
  (List.getElem?_eq_some_iff.mp first.found).1

/-- What comes first stays first, whatever is appended. -/
theorem FirstAt.append {list : List α} (first : FirstAt bad list index element) (more : List α) :
    FirstAt bad (list ++ more) index element where
  found := (List.getElem?_append_left first.lt).trans first.found
  isBad := by
    rw [List.take_append_of_le_length (Nat.le_of_lt first.lt)]
    exact first.isBad
  least earlier other early listed := by
    have inside := Nat.lt_trans early first.lt
    rw [List.getElem?_append_left inside] at listed
    rw [List.take_append_of_le_length (Nat.le_of_lt inside)]
    exact first.least earlier other early listed

/-- Only one element comes first. -/
theorem FirstAt.unique {list : List α} {index' : Nat} {element' : α}
    (first : FirstAt bad list index element) (second : FirstAt bad list index' element') :
    index = index' ∧ element = element' := by
  rcases Nat.lt_trichotomy index index' with early | rfl | late
  · exact absurd first.isBad (second.least index element early first.found)
  · exact ⟨rfl, Option.some.inj (first.found.symm.trans second.found)⟩
  · exact absurd second.isBad (first.least index' element' late second.found)

/-- No element of a list is bad, with what stands before it. -/
def NoneBad (bad : List α → α → Prop) (list : List α) : Prop :=
  ∀ index element, list[index]? = some element → ¬ bad (list.take index) element

theorem noneBad_nil : NoneBad bad [] := fun _ _ listed => nomatch listed

theorem FirstAt.not_noneBad {list : List α} (first : FirstAt bad list index element) :
    ¬ NoneBad bad list := fun fine => fine index element first.found first.isBad

/-- An element at the end of a list in which none is bad is fine, or it is the first bad one. -/
theorem NoneBad.concat {list : List α} (fine : NoneBad bad list) (now : ¬ bad list element) :
    NoneBad bad (list ++ [element]) := by
  intro index other listed
  by_cases inside : index < list.length
  · rw [List.getElem?_append_left inside] at listed
    rw [List.take_append_of_le_length (Nat.le_of_lt inside)]
    exact fine index other listed
  · have last : index = list.length := by
      have below := (List.getElem?_eq_some_iff.mp listed).1
      rw [List.length_append, List.length_singleton] at below
      omega
    subst last
    rw [List.getElem?_concat_length] at listed
    rw [List.take_left, ← Option.some.inj listed]
    exact now

theorem NoneBad.firstAt_concat {list : List α} (fine : NoneBad bad list) (now : bad list element) :
    FirstAt bad (list ++ [element]) list.length element where
  found := List.getElem?_concat_length
  isBad := by
    rw [List.take_left]
    exact now
  least earlier other early listed := by
    rw [List.getElem?_append_left early] at listed
    rw [List.take_append_of_le_length (Nat.le_of_lt early)]
    exact fine earlier other listed

/-- If some element is bad by itself, there is a first one. -/
theorem exists_firstAt {has : α → Prop} {list : List α} (found : ∃ element ∈ list, has element) :
    ∃ index element, FirstAt (fun _ => has) list index element := by
  induction list with
  | nil =>
    obtain ⟨element, listed, -⟩ := found
    cases listed
  | cons head rest ih =>
    by_cases now : has head
    · exact ⟨0, head, (firstAt_cons_of_bad now).mpr ⟨rfl, rfl⟩⟩
    · have behind : ∃ element ∈ rest, has element := by
        obtain ⟨element, listed, bad⟩ := found
        rcases List.mem_cons.mp listed with rfl | later
        · exact absurd bad now
        · exact ⟨element, later, bad⟩
      obtain ⟨later, element, first⟩ := ih behind
      exact ⟨later + 1, element, (firstAt_cons_of_fine now).mpr ⟨later, rfl, first⟩⟩

end FirstAt

/-! ### Rules in an order -/

/-- What is reported, if anything is at fault. -/
def fault? {ε α : Type} : Except ε α → Option ε
  | .error cause => some cause
  | .ok _ => none

theorem fault?_eq_some_iff {ε α : Type} {result : Except ε α} {cause : ε} :
    fault? result = some cause ↔ result = .error cause := by
  cases result with
  | error found => simp [fault?]
  | ok value => simp [fault?]

section Rules

variable {ρ ε : Type}

/-- A check that finds one fault, under one condition. -/
theorem ite_eq_some_iff {condition : Prop} [Decidable condition] {found cause : ε}
    {reports : ε → Prop} (of_holds : condition → reports found)
    (holds_of : reports cause → condition ∧ found = cause) :
    (if condition then some found else none) = some cause ↔ reports cause := by
  rw [Option.ite_none_right_eq_some]
  constructor
  · rintro ⟨holds, same⟩
    exact Option.some.inj same ▸ of_holds holds
  · intro reported
    obtain ⟨holds, same⟩ := holds_of reported
    exact ⟨holds, congrArg some same⟩

/-- What the first rule of an order that is broken says. -/
def FirstBroken (order : List ρ) (breaks : ρ → ε → Prop) (error : ε) : Prop :=
  ∃ index rule, FirstAt (fun _ earlier => ∃ other, breaks earlier other) order index rule ∧
    breaks rule error

variable {order rest : List ρ} {rule : ρ} {breaks : ρ → ε → Prop} {check : ρ → Option ε}
  {error : ε}

theorem not_firstBroken_nil : ¬ FirstBroken [] breaks error := by
  rintro ⟨index, rule, first, -⟩
  exact not_firstAt_nil first

/-- If the first rule is broken, it is what is reported. -/
theorem firstBroken_cons_of_broken (broken : ∃ other, breaks rule other) :
    FirstBroken (rule :: rest) breaks error ↔ breaks rule error := by
  constructor
  · rintro ⟨index, found, first, reports⟩
    obtain ⟨-, rfl⟩ := (firstAt_cons_of_bad broken).mp first
    exact reports
  · intro reports
    exact ⟨0, rule, (firstAt_cons_of_bad broken).mpr ⟨rfl, rfl⟩, reports⟩

/-- If the first rule is kept, the others decide. -/
theorem firstBroken_cons_of_kept (kept : ¬ ∃ other, breaks rule other) :
    FirstBroken (rule :: rest) breaks error ↔ FirstBroken rest breaks error := by
  constructor
  · rintro ⟨index, found, first, reports⟩
    obtain ⟨later, -, behind⟩ := (firstAt_cons_of_fine kept).mp first
    exact ⟨later, found, behind, reports⟩
  · rintro ⟨later, found, behind, reports⟩
    exact ⟨later + 1, found, (firstAt_cons_of_fine kept).mpr ⟨later, rfl, behind⟩, reports⟩

/-- **Rules that are checked one after the other** report the first one that is broken. -/
theorem findSome?_eq_some_iff (checks : ∀ rule other, check rule = some other ↔ breaks rule other) :
    order.findSome? check = some error ↔ FirstBroken order breaks error := by
  induction order with
  | nil => simp only [List.findSome?_nil, reduceCtorEq, not_firstBroken_nil]
  | cons rule rest ih =>
    rw [List.findSome?_cons]
    cases checked : check rule with
    | some reported =>
      have broken : ∃ other, breaks rule other := ⟨reported, (checks rule reported).mp checked⟩
      rw [firstBroken_cons_of_broken broken, ← checks, checked]
    | none =>
      have kept : ¬ ∃ other, breaks rule other := by
        rintro ⟨other, broken⟩
        rw [(checks rule other).mpr broken] at checked
        cases checked
      rw [firstBroken_cons_of_kept kept]
      exact ih

end Rules

end TokenLedger
