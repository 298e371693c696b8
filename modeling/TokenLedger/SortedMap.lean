import TokenLedger.SortedSet
/-!
Finite maps as lists of entries with strictly increasing keys.

The ledger keeps what it knows under keys: signatures under parties, records under transaction ids,
consumers under state references. Such a map has one written form, its entries in increasing order
of the keys, so that two maps that answer every question alike are equal (`ext`).

* `get?_insert`: after an insertion the new key answers with the new value and every other key
  answers as before.
* `mem_toList`: the entries of a map are exactly the pairs it answers with.
-/

namespace TokenLedger

/-- A finite map, held as its entries in strictly increasing order of the keys. -/
structure SortedMap (κ υ : Type) [Ord κ] where
  toList : List (κ × υ)
  increasing : toList.Pairwise fun left right => compare left.1 right.1 = .lt
deriving DecidableEq

namespace SortedMap

variable {κ υ : Type} [Ord κ]

/-- The map without entries. -/
def empty : SortedMap κ υ := ⟨[], .nil⟩

instance : Inhabited (SortedMap κ υ) := ⟨empty⟩

/-- The number of entries. -/
def size (map : SortedMap κ υ) : Nat := map.toList.length

/-- The value that a list of entries first gives for a key. -/
def lookup (key : κ) : List (κ × υ) → Option υ
  | [] => none
  | (head, value) :: rest => if compare key head = .eq then some value else lookup key rest

/-- The value held under a key. -/
def get? (map : SortedMap κ υ) (key : κ) : Option υ := lookup key map.toList

/-- Whether a value is held under a key. -/
def contains (map : SortedMap κ υ) (key : κ) : Bool := (map.get? key).isSome

/-- Puts an entry at its place in an increasing list; an entry with the same key gives way. -/
def place (key : κ) (value : υ) : List (κ × υ) → List (κ × υ)
  | [] => [(key, value)]
  | (head, old) :: rest =>
    match compare key head with
    | .lt => (key, value) :: (head, old) :: rest
    | .eq => (key, value) :: rest
    | .gt => (head, old) :: place key value rest

@[simp] theorem get?_empty (key : κ) : (empty : SortedMap κ υ).get? key = none := rfl

/-! ### Insertion -/

/-- The keys after placing are the old keys and the new one. -/
theorem mem_of_mem_place {key : κ} {value : υ} {entry : κ × υ} {list : List (κ × υ)}
    (found : entry ∈ place key value list) : entry = (key, value) ∨ entry ∈ list := by
  induction list with
  | nil => simpa [place] using found
  | cons head rest ih =>
    unfold place at found
    split at found
    · simpa using found
    · exact (List.mem_cons.mp found).imp_right (List.mem_cons_of_mem _)
    · rcases List.mem_cons.mp found with same | later
      · exact Or.inr (same ▸ List.mem_cons_self)
      · exact (ih later).imp_right (List.mem_cons_of_mem _)

/-- Placing changes the answer at the new key alone. -/
theorem lookup_place [Std.LawfulEqOrd κ] (key asked : κ) (value : υ) (list : List (κ × υ)) :
    lookup asked (place key value list)
      = if compare asked key = .eq then some value else lookup asked list := by
  induction list with
  | nil => rfl
  | cons head rest ih =>
    unfold place
    split
    · rfl
    · rename_i same
      have keys : key = head.1 := Std.LawfulEqOrd.eq_of_compare same
      subst keys
      simp only [lookup]
      split <;> rfl
    · rename_i after
      simp only [lookup, ih]
      split
      · rename_i here
        split
        · rename_i there
          have := Std.LawfulEqOrd.eq_of_compare here
          have := Std.LawfulEqOrd.eq_of_compare there
          simp_all
        · rfl
      · rfl

/-- A list of entries with increasing keys answers with exactly its entries. -/
theorem lookup_eq_some_iff [Std.LawfulEqOrd κ] {list : List (κ × υ)}
    (increasing : list.Pairwise fun left right => compare left.1 right.1 = .lt)
    (key : κ) (value : υ) : lookup key list = some value ↔ (key, value) ∈ list := by
  induction list with
  | nil => simp [lookup]
  | cons head rest ih =>
    obtain ⟨below, tail⟩ := List.pairwise_cons.mp increasing
    obtain ⟨first, old⟩ := head
    unfold lookup
    split
    · rename_i same
      have keys : key = first := Std.LawfulEqOrd.eq_of_compare same
      subst keys
      have absent : (key, value) ∉ rest := fun found => by
        have := below _ found
        simp at this
      simp [absent, eq_comm]
    · rename_i apart
      have different : key ≠ first := fun same => apart (by simp [same])
      simp [ih tail, different]

/-- The entries of a map are exactly the pairs it answers with. -/
theorem mem_toList [Std.LawfulEqOrd κ] {map : SortedMap κ υ} {key : κ} {value : υ} :
    (key, value) ∈ map.toList ↔ map.get? key = some value :=
  (lookup_eq_some_iff map.increasing key value).symm

variable [Std.TransOrd κ]

/-- Placing keeps the keys strictly increasing. -/
theorem pairwise_place (key : κ) (value : υ) {list : List (κ × υ)}
    (increasing : list.Pairwise fun left right => compare left.1 right.1 = .lt) :
    (place key value list).Pairwise fun left right => compare left.1 right.1 = .lt := by
  induction list with
  | nil => simp [place]
  | cons head rest ih =>
    obtain ⟨below, tail⟩ := List.pairwise_cons.mp increasing
    unfold place
    split
    · rename_i first
      refine List.pairwise_cons.mpr ⟨fun other found => ?_, increasing⟩
      rcases List.mem_cons.mp found with same | later
      · exact same ▸ first
      · exact Std.TransCmp.lt_trans first (below other later)
    · rename_i same
      exact List.pairwise_cons.mpr
        ⟨fun other found => Std.TransCmp.lt_of_eq_of_lt same (below other found), tail⟩
    · rename_i after
      refine List.pairwise_cons.mpr ⟨fun other found => ?_, ih tail⟩
      rcases mem_of_mem_place found with same | later
      · exact same ▸ Std.OrientedCmp.gt_iff_lt.mp after
      · exact below other later

/-- The map with a value held under a key, in place of what was held there. -/
def insert (map : SortedMap κ υ) (key : κ) (value : υ) : SortedMap κ υ :=
  ⟨place key value map.toList, pairwise_place key value map.increasing⟩

/-- The map of the entries of a list; of entries with one key the last stays. -/
def ofList (entries : List (κ × υ)) : SortedMap κ υ :=
  entries.foldl (fun map entry => map.insert entry.1 entry.2) empty

/-! ### What a map answers -/

/-- **After an insertion** the new key answers with the new value and every other key answers as
before. -/
theorem get?_insert [Std.LawfulEqOrd κ] [DecidableEq κ] (map : SortedMap κ υ) (key asked : κ)
    (value : υ) :
    (map.insert key value).get? asked = if asked = key then some value else map.get? asked := by
  have decided : compare asked key = .eq ↔ asked = key := Std.LawfulEqCmp.compare_eq_iff_eq
  simp only [get?, insert, lookup_place, decided]

@[simp] theorem get?_insert_self [Std.LawfulEqOrd κ] (map : SortedMap κ υ) (key : κ) (value : υ) :
    (map.insert key value).get? key = some value := by
  simp [get?, insert, lookup_place]

theorem get?_insert_of_ne [Std.LawfulEqOrd κ] {key asked : κ} (different : asked ≠ key)
    (map : SortedMap κ υ) (value : υ) : (map.insert key value).get? asked = map.get? asked := by
  have apart : compare asked key ≠ .eq := fun same =>
    different (Std.LawfulEqOrd.eq_of_compare same)
  simp [get?, insert, lookup_place, apart]

/-- Two lists of entries with increasing keys that answer alike are equal. -/
theorem eq_of_lookup_eq [Std.LawfulEqOrd κ] {left right : List (κ × υ)}
    (left_increasing : left.Pairwise fun a b => compare a.1 b.1 = .lt)
    (right_increasing : right.Pairwise fun a b => compare a.1 b.1 = .lt)
    (same : ∀ key, lookup key left = lookup key right) : left = right := by
  have entries : ∀ entry, entry ∈ left ↔ entry ∈ right := fun ⟨key, value⟩ => by
    rw [← lookup_eq_some_iff left_increasing, ← lookup_eq_some_iff right_increasing, same]
  have irreflexive : ∀ key : κ, compare key key ≠ .lt := fun key => by simp
  clear same
  induction left generalizing right with
  | nil =>
    cases right with
    | nil => rfl
    | cons head rest => exact absurd ((entries head).mpr List.mem_cons_self) List.not_mem_nil
  | cons head rest ih =>
    obtain ⟨below, tail⟩ := List.pairwise_cons.mp left_increasing
    cases right with
    | nil => exact absurd ((entries head).mp List.mem_cons_self) List.not_mem_nil
    | cons head' rest' =>
      obtain ⟨below', tail'⟩ := List.pairwise_cons.mp right_increasing
      have heads : head = head' := by
        rcases List.mem_cons.mp ((entries head).mp List.mem_cons_self) with eq | later
        · exact eq
        rcases List.mem_cons.mp ((entries head').mpr List.mem_cons_self) with eq | later'
        · exact eq.symm
        exact absurd (Std.TransCmp.lt_trans (below' head later) (below head' later'))
          (irreflexive head'.1)
      subst heads
      refine congrArg (head :: ·) (ih tail tail' fun entry => ⟨fun found => ?_, fun found => ?_⟩)
      · rcases List.mem_cons.mp ((entries entry).mp (List.mem_cons_of_mem _ found)) with eq | later
        · exact absurd (eq ▸ below entry found) (irreflexive head.1)
        · exact later
      · rcases List.mem_cons.mp ((entries entry).mpr (List.mem_cons_of_mem _ found)) with eq | later
        · exact absurd (eq ▸ below' entry found) (irreflexive head.1)
        · exact later

/-- Maps that answer alike are equal. -/
theorem ext [Std.LawfulEqOrd κ] {left right : SortedMap κ υ}
    (same : ∀ key, left.get? key = right.get? key) : left = right := by
  have lists := eq_of_lookup_eq left.increasing right.increasing same
  cases left; cases right; cases lists; rfl

end SortedMap

end TokenLedger
