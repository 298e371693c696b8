/-!
Finite sets as strictly increasing lists.

A set of parties or commands has one written form: its members in increasing order, each once.
Keeping that form in the type makes equality of sets the equality of their lists, so that whatever
is computed from a set (an encoding, a hash, a printed form) depends on its members alone.

* `mem_insert`: inserting adds exactly one member.
* `ext`: sets with the same members are equal.
* `mem_ofList` and `ofList_toList`: a set built from a list has the members of that list, and a set
  rebuilt from its own list is itself.
-/

namespace TokenLedger

/-- A finite set, held as the strictly increasing list of its members. -/
structure SortedSet (α : Type) [Ord α] where
  toList : List α
  increasing : toList.Pairwise fun left right => compare left right = .lt
deriving DecidableEq

namespace SortedSet

variable {α : Type} [Ord α]

/-- The set without members. -/
def empty : SortedSet α := ⟨[], .nil⟩

instance : Inhabited (SortedSet α) := ⟨empty⟩

instance : Membership α (SortedSet α) where
  mem set member := member ∈ set.toList

instance [DecidableEq α] (member : α) (set : SortedSet α) : Decidable (member ∈ set) :=
  inferInstanceAs (Decidable (member ∈ set.toList))

@[simp] theorem not_mem_empty (member : α) : ¬ member ∈ (empty : SortedSet α) :=
  List.not_mem_nil

theorem mem_def {member : α} {set : SortedSet α} : member ∈ set ↔ member ∈ set.toList := Iff.rfl

theorem toList_inj {left right : SortedSet α} : left.toList = right.toList ↔ left = right := by
  cases left; cases right; simp

theorem eq_empty_iff {set : SortedSet α} : set = empty ↔ ∀ member, member ∉ set :=
  toList_inj.symm.trans List.eq_nil_iff_forall_not_mem

/-- The number of members. -/
def size (set : SortedSet α) : Nat := set.toList.length

/-! ### Insertion -/

/-- Puts a member at its place in an increasing list; a list that has it stays as it is. -/
def place (new : α) : List α → List α
  | [] => [new]
  | head :: rest =>
    match compare new head with
    | .lt => new :: head :: rest
    | .eq => head :: rest
    | .gt => head :: place new rest

/-- Placing adds nothing but the new member. -/
theorem mem_of_mem_place {new member : α} {list : List α} (found : member ∈ place new list) :
    member = new ∨ member ∈ list := by
  induction list with
  | nil => simpa [place] using found
  | cons head rest ih =>
    unfold place at found
    split at found
    · simpa using found
    · exact Or.inr found
    · rcases List.mem_cons.mp found with same | later
      · exact Or.inr (same ▸ List.mem_cons_self)
      · exact (ih later).imp_right (List.mem_cons_of_mem _)

/-- Placing adds the new member and keeps the others. -/
theorem mem_place [Std.LawfulEqOrd α] {new member : α} {list : List α} :
    member ∈ place new list ↔ member = new ∨ member ∈ list := by
  refine ⟨mem_of_mem_place, fun wanted => ?_⟩
  induction list with
  | nil => simpa [place] using wanted
  | cons head rest ih =>
    unfold place
    split
    · exact List.mem_cons.mpr wanted
    · rename_i same
      rcases wanted with new_eq | found
      · exact new_eq ▸ Std.LawfulEqOrd.eq_of_compare same ▸ List.mem_cons_self
      · exact found
    · rcases wanted with new_eq | found
      · exact List.mem_cons_of_mem _ (ih (Or.inl new_eq))
      · rcases List.mem_cons.mp found with head_eq | later
        · exact head_eq ▸ List.mem_cons_self
        · exact List.mem_cons_of_mem _ (ih (Or.inr later))

/-- Placing keeps a list strictly increasing. -/
theorem pairwise_place [Std.TransOrd α] (new : α) {list : List α}
    (increasing : list.Pairwise fun left right => compare left right = .lt) :
    (place new list).Pairwise fun left right => compare left right = .lt := by
  induction list with
  | nil => simp [place]
  | cons head rest ih =>
    obtain ⟨below, tail⟩ := List.pairwise_cons.mp increasing
    unfold place
    split
    · rename_i first
      refine List.pairwise_cons.mpr ⟨fun other found => ?_, increasing⟩
      rcases List.mem_cons.mp found with same | later
      · exact same ▸ first
      · exact Std.TransCmp.lt_trans first (below other later)
    · exact increasing
    · rename_i after
      refine List.pairwise_cons.mpr ⟨fun other found => ?_, ih tail⟩
      rcases mem_of_mem_place found with same | later
      · exact same ▸ Std.OrientedCmp.gt_iff_lt.mp after
      · exact below other later

/-- Placing makes a list longer by one at most. -/
theorem length_place_le (new : α) (list : List α) : (place new list).length ≤ list.length + 1 := by
  induction list with
  | nil => exact Nat.le_refl _
  | cons head rest ih =>
    unfold place
    split
    · exact Nat.le_refl _
    · exact Nat.le_succ _
    · exact Nat.succ_le_succ ih

variable [Std.TransOrd α]

/-- The set with one more member. -/
def insert (set : SortedSet α) (new : α) : SortedSet α :=
  ⟨place new set.toList, pairwise_place new set.increasing⟩

/-- The set of the members of a list. -/
def ofList (list : List α) : SortedSet α :=
  list.foldl insert empty

/-- The union of several sets. -/
def union (sets : List (SortedSet α)) : SortedSet α :=
  ofList (sets.flatMap toList)

/-! ### Members decide the set -/

@[simp] theorem mem_insert [Std.LawfulEqOrd α] {set : SortedSet α} {new member : α} :
    member ∈ set.insert new ↔ member = new ∨ member ∈ set :=
  mem_place

theorem mem_foldl_insert [Std.LawfulEqOrd α] {list : List α} {set : SortedSet α} {member : α} :
    member ∈ list.foldl insert set ↔ member ∈ list ∨ member ∈ set := by
  induction list generalizing set with
  | nil => simp
  | cons head rest ih => simp only [List.foldl_cons, ih, mem_insert, List.mem_cons]; grind

@[simp] theorem mem_ofList [Std.LawfulEqOrd α] {list : List α} {member : α} :
    member ∈ ofList list ↔ member ∈ list := by
  simp [ofList, mem_foldl_insert]

theorem length_foldl_insert_le (list : List α) (set : SortedSet α) :
    (list.foldl insert set).toList.length ≤ list.length + set.toList.length := by
  induction list generalizing set with
  | nil => exact Nat.le_add_left _ _
  | cons head rest ih =>
    have placed : (set.insert head).toList.length ≤ set.toList.length + 1 := length_place_le _ _
    have folded := ih (set.insert head)
    rw [List.foldl_cons, List.length_cons]
    omega

/-- A set has no more members than the list that it was built from. -/
theorem length_toList_ofList_le (list : List α) : (ofList list).toList.length ≤ list.length :=
  length_foldl_insert_le list empty

@[simp] theorem mem_union [Std.LawfulEqOrd α] {sets : List (SortedSet α)} {member : α} :
    member ∈ union sets ↔ ∃ set ∈ sets, member ∈ set := by
  rw [union, mem_ofList, List.mem_flatMap]
  rfl

/-- Two strictly increasing lists with the same members are equal. -/
theorem eq_of_mem_iff {left right : List α}
    (left_increasing : left.Pairwise fun a b => compare a b = .lt)
    (right_increasing : right.Pairwise fun a b => compare a b = .lt)
    (same : ∀ member, member ∈ left ↔ member ∈ right) : left = right := by
  have irreflexive : ∀ member : α, compare member member ≠ .lt := fun member => by
    simp
  have asymmetric : ∀ {a b : α}, compare a b = .lt → compare b a = .lt → False :=
    fun {a b} ab ba => irreflexive a (Std.TransCmp.lt_trans ab ba)
  induction left generalizing right with
  | nil =>
    cases right with
    | nil => rfl
    | cons head rest => exact absurd ((same head).mpr List.mem_cons_self) List.not_mem_nil
  | cons head rest ih =>
    obtain ⟨below, tail⟩ := List.pairwise_cons.mp left_increasing
    cases right with
    | nil => exact absurd ((same head).mp List.mem_cons_self) List.not_mem_nil
    | cons head' rest' =>
      obtain ⟨below', tail'⟩ := List.pairwise_cons.mp right_increasing
      have heads : head = head' := by
        rcases List.mem_cons.mp ((same head).mp List.mem_cons_self) with eq | later
        · exact eq
        rcases List.mem_cons.mp ((same head').mpr List.mem_cons_self) with eq | later'
        · exact eq.symm
        exact (asymmetric (below' head later) (below head' later')).elim
      subst heads
      refine congrArg (head :: ·) (ih tail tail' fun member => ⟨fun found => ?_, fun found => ?_⟩)
      · rcases List.mem_cons.mp ((same member).mp (List.mem_cons_of_mem _ found)) with eq | later
        · exact absurd (eq ▸ below member found) (irreflexive head)
        · exact later
      · rcases List.mem_cons.mp ((same member).mpr (List.mem_cons_of_mem _ found)) with eq | later
        · exact absurd (eq ▸ below' member found) (irreflexive head)
        · exact later

/-- Sets with the same members are equal. -/
theorem ext {left right : SortedSet α} (same : ∀ member, member ∈ left ↔ member ∈ right) :
    left = right := by
  have lists := eq_of_mem_iff left.increasing right.increasing same
  cases left; cases right; cases lists; rfl

/-- Lists with the same members make the same set. -/
theorem ofList_congr [Std.LawfulEqOrd α] {left right : List α}
    (same : ∀ member, member ∈ left ↔ member ∈ right) : ofList left = ofList right :=
  ext fun member => by rw [mem_ofList, mem_ofList, same member]

/-- A set rebuilt from its own list is itself. -/
@[simp] theorem ofList_toList [Std.LawfulEqOrd α] (set : SortedSet α) : ofList set.toList = set :=
  ext fun _ => mem_ofList

/-! ### Order -/

/-- Sets are ordered by their increasing lists, the first difference deciding. -/
instance : Ord (SortedSet α) where
  compare := compareOn toList

instance : Std.TransOrd (SortedSet α) :=
  inferInstanceAs (Std.TransCmp (compareOn SortedSet.toList))

instance [Std.LawfulEqOrd α] : Std.LawfulEqOrd (SortedSet α) where
  eq_of_compare {left right} h := by
    have lists : left.toList = right.toList := Std.LawfulEqOrd.eq_of_compare (α := List α) h
    cases left; cases right; cases lists; rfl

end SortedSet

end TokenLedger
