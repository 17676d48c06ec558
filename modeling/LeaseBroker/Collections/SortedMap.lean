/-!
# Maps with sorted keys

A `SortedMap` is a list of bindings whose keys ascend strictly, so two maps with the same
look-ups are equal and every listing of keys comes out in order. A `SortedSet` is a map to
`Unit`. Nothing here knows what the keys are.
-/

set_option autoImplicit false

namespace LeaseBroker

/-- A finite map kept as a list of bindings with strictly ascending keys. -/
structure SortedMap (α β : Type) [Ord α] where
  toList : List (α × β)
  ascending : toList.Pairwise fun a b => compare a.1 b.1 = .lt

namespace SortedMap
variable {α β : Type} [Ord α]

def lookup (k : α) : List (α × β) → Option β
  | [] => none
  | (k', v) :: rest =>
    match compare k k' with
    | .eq => some v
    | _ => lookup k rest

/-- Puts a binding at its place, in front of the first larger key. -/
def insertInto (k : α) (v : β) : List (α × β) → List (α × β)
  | [] => [(k, v)]
  | (k', v') :: rest =>
    match compare k k' with
    | .lt => (k, v) :: (k', v') :: rest
    | .eq => (k, v) :: rest
    | .gt => (k', v') :: insertInto k v rest

theorem mem_insertInto {k : α} {v : β} {b : α × β} {bs : List (α × β)}
    (h : b ∈ insertInto k v bs) : b = (k, v) ∨ b ∈ bs := by
  induction bs with
  | nil => simp_all [insertInto]
  | cons c rest ih =>
    obtain ⟨k', v'⟩ := c
    rw [insertInto] at h
    split at h
    · simp_all
    · simp only [List.mem_cons] at h ⊢
      exact h.elim .inl (fun m => .inr (.inr m))
    · rcases List.mem_cons.mp h with rfl | m
      · simp
      · exact (ih m).elim .inl (fun m => .inr (List.mem_cons_of_mem _ m))

theorem insertInto_ascending [Std.TransOrd α] (k : α) (v : β) {bs : List (α × β)}
    (h : bs.Pairwise fun a b => compare a.1 b.1 = .lt) :
    (insertInto k v bs).Pairwise fun a b => compare a.1 b.1 = .lt := by
  induction bs with
  | nil => simp [insertInto]
  | cons c rest ih =>
    obtain ⟨k', v'⟩ := c
    obtain ⟨hhead, htail⟩ := List.pairwise_cons.mp h
    rw [insertInto]
    split
    · rename_i hlt
      refine List.pairwise_cons.mpr ⟨fun b hb => ?_, h⟩
      rcases List.mem_cons.mp hb with rfl | m
      · exact hlt
      · exact Std.TransCmp.lt_trans hlt (hhead b m)
    · rename_i heq
      exact List.pairwise_cons.mpr
        ⟨fun b hb => (Std.TransCmp.congr_left heq).trans (hhead b hb), htail⟩
    · rename_i hgt
      refine List.pairwise_cons.mpr ⟨fun b hb => ?_, ih htail⟩
      rcases mem_insertInto hb with rfl | m
      · exact Std.OrientedCmp.lt_of_gt hgt
      · exact hhead b m

def empty : SortedMap α β := ⟨[], .nil⟩

instance : EmptyCollection (SortedMap α β) := ⟨empty⟩
instance : Inhabited (SortedMap α β) := ⟨∅⟩

def get? (m : SortedMap α β) (k : α) : Option β := lookup k m.toList

def contains (m : SortedMap α β) (k : α) : Bool := (m.get? k).isSome

/-- Binds `k` to `v`, in place of any earlier binding of `k`. -/
def insert [Std.TransOrd α] (m : SortedMap α β) (k : α) (v : β) : SortedMap α β :=
  ⟨insertInto k v m.toList, insertInto_ascending k v m.ascending⟩

def filter (p : α → β → Bool) (m : SortedMap α β) : SortedMap α β :=
  ⟨m.toList.filter fun b => p b.1 b.2, m.ascending.filter _⟩

def erase (m : SortedMap α β) (k : α) : SortedMap α β :=
  m.filter fun k' _ => compare k k' != .eq

/-- Binds `k` to a value, or drops its binding when there is none. -/
def set [Std.TransOrd α] (m : SortedMap α β) (k : α) : Option β → SortedMap α β
  | some v => m.insert k v
  | none => m.erase k

/-- The bound keys in ascending order. -/
def keys (m : SortedMap α β) : List α := m.toList.map (·.1)

def values (m : SortedMap α β) : List β := m.toList.map (·.2)

def size (m : SortedMap α β) : Nat := m.toList.length

def isEmpty (m : SortedMap α β) : Bool := m.toList.isEmpty

def ofList [Std.TransOrd α] (bs : List (α × β)) : SortedMap α β :=
  bs.foldl (fun m b => m.insert b.1 b.2) ∅

theorem ext_toList {m n : SortedMap α β} (h : m.toList = n.toList) : m = n := by
  cases m; cases n; simp_all

@[simp] theorem toList_empty : (∅ : SortedMap α β).toList = [] := rfl

@[simp] theorem get?_empty (k : α) : (∅ : SortedMap α β).get? k = none := rfl

theorem lookup_insertInto_self [Std.TransOrd α] [Std.LawfulEqOrd α] (k : α) (v : β)
    (bs : List (α × β)) : lookup k (insertInto k v bs) = some v := by
  induction bs with
  | nil => simp [insertInto, lookup]
  | cons c rest ih =>
    obtain ⟨k', v'⟩ := c
    rw [insertInto]
    split
    · simp [lookup]
    · simp [lookup]
    · rename_i hgt
      simp [lookup, hgt, ih]

theorem lookup_insertInto_of_ne [Std.TransOrd α] [Std.LawfulEqOrd α] {k j : α} (v : β)
    (h : j ≠ k) (bs : List (α × β)) : lookup j (insertInto k v bs) = lookup j bs := by
  have hjk : compare j k ≠ .eq := fun e => h (Std.LawfulEqCmp.eq_of_compare e)
  have drop : ∀ (rest : List (α × β)), lookup j ((k, v) :: rest) = lookup j rest := by
    intro rest
    rw [lookup]
    split
    · contradiction
    · rfl
  induction bs with
  | nil => rw [insertInto, drop]
  | cons c rest ih =>
    obtain ⟨k', v'⟩ := c
    rw [insertInto]
    split
    · exact drop _
    · rename_i heq
      have : k = k' := Std.LawfulEqCmp.eq_of_compare heq
      subst this
      rw [drop, lookup]
      split
      · contradiction
      · rfl
    · rw [lookup, lookup, ih]

@[simp] theorem get?_insert_self [Std.TransOrd α] [Std.LawfulEqOrd α] (m : SortedMap α β)
    (k : α) (v : β) : (m.insert k v).get? k = some v :=
  lookup_insertInto_self k v m.toList

theorem get?_insert_of_ne [Std.TransOrd α] [Std.LawfulEqOrd α] (m : SortedMap α β)
    {k j : α} (v : β) (h : j ≠ k) : (m.insert k v).get? j = m.get? j :=
  lookup_insertInto_of_ne v h m.toList

end SortedMap

/-- A finite set kept as a list of strictly ascending members. -/
abbrev SortedSet (α : Type) [Ord α] := SortedMap α Unit

namespace SortedSet
variable {α : Type} [Ord α]

def members (s : SortedSet α) : List α := s.keys

def add [Std.TransOrd α] (s : SortedSet α) (a : α) : SortedSet α := s.insert a ()

/-- The set of the members of a list. -/
def ofList [Std.TransOrd α] (as : List α) : SortedSet α := as.foldl add ∅

end SortedSet

end LeaseBroker
