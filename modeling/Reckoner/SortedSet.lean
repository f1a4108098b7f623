/-! Finite sets with one representation each: lists in ascending order of a key, without
repetitions. Two sets with the same members are equal, `SortedSet.ext`. -/

namespace Reckoner

/-- A type whose elements are told apart by a number. -/
class Keyed (α : Type) where
  key : α → Nat
  key_injective : ∀ a b : α, key a = key b → a = b

/-- A finite set as the list of its members, in ascending order of their keys. -/
structure SortedSet (α : Type) [Keyed α] where
  toList : List α
  sorted : toList.Pairwise fun a b => Keyed.key a < Keyed.key b

namespace SortedSet

variable {α : Type} [Keyed α]

instance [DecidableEq α] : DecidableEq (SortedSet α) := fun s t =>
  decidable_of_iff (s.toList = t.toList) (by cases s; cases t; simp)

instance : Membership α (SortedSet α) := ⟨fun s a => a ∈ s.toList⟩

theorem mem_def {a : α} {s : SortedSet α} : a ∈ s ↔ a ∈ s.toList := Iff.rfl

def empty : SortedSet α := ⟨[], .nil⟩

instance : EmptyCollection (SortedSet α) := ⟨empty⟩

def isEmpty (s : SortedSet α) : Bool := s.toList.isEmpty

def size (s : SortedSet α) : Nat := s.toList.length

def any (s : SortedSet α) (p : α → Bool) : Bool := s.toList.any p

def contains [DecidableEq α] (s : SortedSet α) (a : α) : Bool := decide (a ∈ s.toList)

/-- `a` put in its place in an ascending list, unless it is there. -/
def insertList (a : α) : List α → List α
  | [] => [a]
  | b :: bs =>
    if Keyed.key a < Keyed.key b then a :: b :: bs
    else if Keyed.key a = Keyed.key b then b :: bs
    else b :: insertList a bs

theorem mem_insertList {a x : α} {l : List α} : x ∈ insertList a l ↔ x = a ∨ x ∈ l := by
  induction l with
  | nil => simp [insertList]
  | cons b bs ih =>
    unfold insertList
    split
    · simp
    · split
      next h =>
        have hab : a = b := Keyed.key_injective a b h
        simp [hab]
      next => simp [ih, or_left_comm]

theorem insertList_sorted (a : α) {l : List α}
    (h : l.Pairwise fun a b => Keyed.key a < Keyed.key b) :
    (insertList a l).Pairwise fun a b => Keyed.key a < Keyed.key b := by
  induction l with
  | nil => simp [insertList]
  | cons b bs ih =>
    obtain ⟨hb, hbs⟩ := List.pairwise_cons.1 h
    unfold insertList
    split
    next hlt =>
      refine List.pairwise_cons.2 ⟨fun x hx => ?_, h⟩
      rcases List.mem_cons.1 hx with rfl | hx
      · exact hlt
      · exact Nat.lt_trans hlt (hb x hx)
    next hlt =>
      split
      next => exact h
      next hne =>
        refine List.pairwise_cons.2 ⟨fun x hx => ?_, ih hbs⟩
        rcases mem_insertList.1 hx with rfl | hx
        · omega
        · exact hb x hx

def insert (s : SortedSet α) (a : α) : SortedSet α :=
  ⟨insertList a s.toList, insertList_sorted a s.sorted⟩

def ofList (l : List α) : SortedSet α := l.foldl insert ∅

@[simp] theorem not_mem_empty (a : α) : ¬ a ∈ (∅ : SortedSet α) := List.not_mem_nil

@[simp] theorem mem_insert {s : SortedSet α} {a x : α} : x ∈ s.insert a ↔ x = a ∨ x ∈ s :=
  mem_insertList

theorem mem_foldl_insert {l : List α} {s : SortedSet α} {x : α} :
    x ∈ l.foldl insert s ↔ x ∈ l ∨ x ∈ s := by
  induction l generalizing s with
  | nil => simp
  | cons a l ih => simp [ih, or_assoc, or_left_comm]

@[simp] theorem mem_ofList {l : List α} {x : α} : x ∈ ofList l ↔ x ∈ l := by
  simp [ofList, mem_foldl_insert]

@[simp] theorem contains_iff [DecidableEq α] {s : SortedSet α} {a : α} :
    s.contains a = true ↔ a ∈ s := by
  simp [contains, mem_def]

@[simp] theorem any_iff {s : SortedSet α} {p : α → Bool} :
    s.any p = true ↔ ∃ a, a ∈ s ∧ p a = true := by
  simp [any, mem_def]

@[simp] theorem isEmpty_iff {s : SortedSet α} : s.isEmpty = true ↔ ∀ a, ¬ a ∈ s := by
  simp [isEmpty, mem_def, List.eq_nil_iff_forall_not_mem]

theorem toList_ext {l m : List α} (hl : l.Pairwise fun a b => Keyed.key a < Keyed.key b)
    (hm : m.Pairwise fun a b => Keyed.key a < Keyed.key b) (h : ∀ a, a ∈ l ↔ a ∈ m) : l = m := by
  induction l generalizing m with
  | nil =>
    cases m with
    | nil => rfl
    | cons b m => exact absurd ((h b).2 (by simp)) (by simp)
  | cons a l ih =>
    cases m with
    | nil => exact absurd ((h a).1 (by simp)) (by simp)
    | cons b m =>
      obtain ⟨ha, hl'⟩ := List.pairwise_cons.1 hl
      obtain ⟨hb, hm'⟩ := List.pairwise_cons.1 hm
      have hab : a = b := by
        rcases List.mem_cons.1 ((h a).1 (by simp)) with hab | hab
        · exact hab
        · rcases List.mem_cons.1 ((h b).2 (by simp)) with hba | hba
          · exact hba.symm
          · have h1 := ha b hba
            have h2 := hb a hab
            omega
      subst hab
      refine congrArg (a :: ·) (ih hl' hm' fun x => ⟨fun hx => ?_, fun hx => ?_⟩)
      · rcases List.mem_cons.1 ((h x).1 (List.mem_cons_of_mem a hx)) with rfl | hx'
        · exact absurd (ha x hx) (Nat.lt_irrefl _)
        · exact hx'
      · rcases List.mem_cons.1 ((h x).2 (List.mem_cons_of_mem a hx)) with rfl | hx'
        · exact absurd (hb x hx) (Nat.lt_irrefl _)
        · exact hx'

/-- Sets with the same members are equal. -/
theorem ext {s t : SortedSet α} (h : ∀ a, a ∈ s ↔ a ∈ t) : s = t := by
  have hlist := toList_ext s.sorted t.sorted h
  cases s
  cases t
  simpa using hlist

end SortedSet

end Reckoner
