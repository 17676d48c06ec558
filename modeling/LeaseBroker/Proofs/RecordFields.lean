import LeaseBroker.Proofs.DistinctNames
import LeaseBroker.Proofs.LoadedSettings

/-!
# Fields of records

A field of a record is read from the member of its name, whatever the other members are. So to put
another value under that name changes the field, and all that is read from the other members stays.
-/

set_option autoImplicit false

namespace LeaseBroker.Document

/-- Whether a record has a field that is read from the members of one name and from no others. -/
structure Shape.HasField {σ α : Type} (shape : Shape σ) (name : String) (read : Document → Read α)
    (get : σ → α) (set : α → σ → σ) : Prop where
  own : ∀ s d, shape.put s name d = (read d).map (set · s)
  other : ∀ {field : String}, field ≠ name → ∀ a s d,
    shape.put (set a s) field d = (shape.put s field d).map (set a)
  get_set : ∀ a s, get (set a s) = a
  set_get : ∀ s, set (get s) s = s
  set_set : ∀ a b s, set a (set b s) = set a s

namespace Shape.HasField
variable {σ α : Type} {shape : Shape σ} {name : String} {read : Document → Read α} {get : σ → α}
  {set : α → σ → σ} (hfield : shape.HasField name read get set)
  {members : List (String × Document)}
include hfield

/-- Members of other names are read as if the field had been set before. -/
theorem readMembers_set (hother : ∀ m ∈ members, m.1 ≠ name) (a : α) :
    ∀ s, shape.readMembers (set a s) members = (shape.readMembers s members).map (set a) := by
  induction members with
  | nil => exact fun _ => rfl
  | cons m members ih =>
    intro s
    obtain ⟨hm, hmembers⟩ := List.forall_mem_cons.mp hother
    rw [readMembers, readMembers, hfield.other hm]
    cases shape.put s m.1 m.2 with
    | error fault => rfl
    | ok t => exact ih hmembers t

theorem get_of_readMembers (hother : ∀ m ∈ members, m.1 ≠ name) {s t : σ}
    (h : shape.readMembers s members = .ok t) : get t = get s := by
  have hset := hfield.readMembers_set hother (get s) s
  rw [hfield.set_get, h] at hset
  have hfixed : t = set (get s) t := Except.ok.inj hset
  rw [hfixed, hfield.get_set]

theorem readMembers_cons_eq_ok {d : Document} (hother : ∀ m ∈ members, m.1 ≠ name) {s t : σ} :
    shape.readMembers s ((name, d) :: members) = .ok t ↔
      ∃ a u, read d = .ok a ∧ shape.readMembers s members = .ok u ∧ set a u = t := by
  rw [readMembers, bind_eq_ok]
  simp only [inside_eq_ok, hfield.own, map_eq_ok]
  constructor
  · rintro ⟨_, ⟨a, ha, rfl⟩, h⟩
    rw [hfield.readMembers_set hother, map_eq_ok] at h
    obtain ⟨u, hu, rfl⟩ := h
    exact ⟨a, u, ha, hu, rfl⟩
  · rintro ⟨a, u, ha, hu, rfl⟩
    refine ⟨_, ⟨a, ha, rfl⟩, ?_⟩
    rw [hfield.readMembers_set hother, hu]
    rfl

/-- Binding the name anew in sorted members sets the field after all. -/
theorem readMembers_insertInto {d : Document} {a : α} (hd : read d = .ok a)
    (hsorted : members.Pairwise fun m m' => compare m.1 m'.1 = .lt) : ∀ {s t : σ},
    shape.readMembers s members = .ok t →
      shape.readMembers s (SortedMap.insertInto name d members) = .ok (set a t) := by
  induction members with
  | nil =>
    intro s t h
    exact (hfield.readMembers_cons_eq_ok (by simp)).mpr ⟨a, t, hd, h, rfl⟩
  | cons m members ih =>
    intro s t h
    obtain ⟨field, old⟩ := m
    obtain ⟨hfirst, hrest⟩ := List.pairwise_cons.mp hsorted
    rw [SortedMap.insertInto]
    split
    · rename_i hlt
      refine (hfield.readMembers_cons_eq_ok fun m hm => ?_).mpr ⟨a, t, hd, h, rfl⟩
      rcases List.mem_cons.mp hm with rfl | hm
      · exact (SortedMap.ne_of_compare_lt hlt).symm
      · exact (SortedMap.ne_of_compare_lt (Std.TransCmp.lt_trans hlt (hfirst m hm))).symm
    · rename_i heq
      obtain rfl : name = field := Std.LawfulEqCmp.eq_of_compare heq
      have hother : ∀ m ∈ members, m.1 ≠ name :=
        fun m hm => (SortedMap.ne_of_compare_lt (hfirst m hm)).symm
      obtain ⟨b, u, -, hu, rfl⟩ := (hfield.readMembers_cons_eq_ok hother).mp h
      refine (hfield.readMembers_cons_eq_ok hother).mpr ⟨a, u, hd, hu, ?_⟩
      rw [hfield.set_set]
    · obtain ⟨u, hu, h⟩ := bind_eq_ok.mp h
      exact bind_eq_ok.mpr ⟨u, hu, ih hrest h⟩

theorem read_of_mem {d : Document} (hmem : (name, d) ∈ members)
    (hsorted : members.Pairwise fun m m' => compare m.1 m'.1 = .lt) : ∀ {s t : σ},
    shape.readMembers s members = .ok t → read d = .ok (get t) := by
  induction members with
  | nil => cases hmem
  | cons m members ih =>
    intro s t h
    obtain ⟨hfirst, hrest⟩ := List.pairwise_cons.mp hsorted
    rcases List.mem_cons.mp hmem with rfl | hmem
    · have hother : ∀ m ∈ members, m.1 ≠ name :=
        fun m hm => (SortedMap.ne_of_compare_lt (hfirst m hm)).symm
      obtain ⟨a, u, ha, -, rfl⟩ := (hfield.readMembers_cons_eq_ok hother).mp h
      rw [hfield.get_set, ha]
    · obtain ⟨u, -, h⟩ := bind_eq_ok.mp h
      exact ih hmem hrest h

/-! ### Records as they are read -/

variable {mode : Mode} {old : List (String × Document)} {t : σ}
  (h : shape.read mode (.table old) = .ok t)
include h

theorem read_putMember {d : Document} {a : α} (hnames : (old.map Prod.fst).Nodup)
    (hd : read d = .ok a) : shape.read mode (.table (putMember name d old)) = .ok (set a t) := by
  rw [Shape.read, sortedMembers_putMember hnames]
  exact hfield.readMembers_insertInto hd (SortedMap.ofList old).ascending h

theorem read_member {d : Document} (hd : memberOf? old name = some d) : read d = .ok (get t) :=
  hfield.read_of_mem (SortedMap.mem_toList_iff.mpr hd) (SortedMap.ofList old).ascending h

theorem get_of_no_member (hnone : memberOf? old name = none) : get t = get shape.start := by
  refine hfield.get_of_readMembers (fun m hm heq => ?_) h
  have hsome : memberOf? old name = some m.2 := SortedMap.mem_toList_iff.mp (heq ▸ hm)
  rw [hnone] at hsome
  cases hsome

end Shape.HasField

end LeaseBroker.Document
