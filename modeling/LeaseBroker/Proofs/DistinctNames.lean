import LeaseBroker.Proofs.SortedMap
import LeaseBroker.Proofs.TomlDocuments
import LeaseBroker.Settings.Layers

/-!
# Distinct names in documents

No table of a document that is read from a text has two members of one name. To put a member into
such a table, or to merge one into it, changes what the table has under that name and nothing else.
-/

set_option autoImplicit false

namespace LeaseBroker.Document

/-- Whether no table in a document has two members of one name. -/
inductive Distinct : Document → Prop
  | null : Distinct .null
  | bool (b : Bool) : Distinct (.bool b)
  | signed (n : Int) : Distinct (.signed n)
  | unsigned (n : Nat) : Distinct (.unsigned n)
  | float (x : Double) : Distinct (.float x)
  | char (c : Char) : Distinct (.char c)
  | text (s : String) : Distinct (.text s)
  | list {items : List Document} (each : ∀ d ∈ items, Distinct d) : Distinct (.list items)
  | table {members : List (String × Document)} (names : (members.map Prod.fst).Nodup)
      (each : ∀ m ∈ members, Distinct m.2) : Distinct (.table members)

theorem distinct_buildsUp : Toml.BuildsUp Distinct List.Nodup where
  noNames := .nil
  newName hnames hname := List.concat_eq_append ▸ List.Nodup.concat hname hnames
  bool := .bool
  signed _ := .signed _
  float := .float
  text := .text
  list := .list
  table := .table

def members : Document → List (String × Document)
  | table members => members
  | _ => []

namespace Distinct
variable {d : Document} (h : d.Distinct)
include h

theorem nodup_members : (d.members.map Prod.fst).Nodup := by
  cases h with
  | table names _ => exact names
  | _ => exact .nil

theorem memberOf? {name : String} {member : Document}
    (hmember : Document.memberOf? d.members name = some member) : member.Distinct := by
  have hmem : (name, member) ∈ d.members :=
    SortedMap.mem_of_mem_ofList (SortedMap.mem_toList_iff.mpr hmember)
  cases h with
  | table _ each => exact each _ hmem
  | _ => cases hmem

end Distinct

/-! ### Members of tables -/

variable {name : String} {d : Document} {old : List (String × Document)}

theorem lastMember?_eq (old : List (String × Document)) (name : String) :
    lastMember? old name = memberOf? old name :=
  (SortedMap.get?_ofList old name).symm

theorem nodup_putMember (h : (old.map Prod.fst).Nodup) (name : String) (d : Document) :
    ((putMember name d old).map Prod.fst).Nodup := by
  rw [names_putMember]
  split
  · exact h
  · exact List.concat_eq_append ▸ List.Nodup.concat ‹_› h

theorem mem_putMember_iff (h : (old.map Prod.fst).Nodup) {m : String × Document} :
    m ∈ putMember name d old ↔ m = (name, d) ∨ m.1 ≠ name ∧ m ∈ old := by
  induction old with
  | nil => simp [putMember]
  | cons o old ih =>
    obtain ⟨n, base⟩ := o
    rw [List.map_cons, List.nodup_cons] at h
    rw [putMember]
    split
    · rename_i hn
      have hother : m ∈ old → m.1 ≠ name := by
        intro hm heq
        exact h.1 (List.mem_map.mpr ⟨m, hm, heq.trans hn.symm⟩)
      grind
    · rw [List.mem_cons, ih h.2]
      grind

/-- The table with a member put into it is the one with its name bound anew. -/
theorem sortedMembers_putMember (h : (old.map Prod.fst).Nodup) (name : String) (d : Document) :
    sortedMembers (putMember name d old) = SortedMap.insertInto name d (sortedMembers old) := by
  have hmap : SortedMap.ofList (putMember name d old) = (SortedMap.ofList old).insert name d := by
    refine SortedMap.ext_get? fun k => Option.ext fun x => ?_
    rw [SortedMap.get?_insert, ← SortedMap.mem_toList_iff,
      SortedMap.mem_ofList_iff (nodup_putMember h name d), mem_putMember_iff h]
    by_cases hk : k = name
    · simp [hk, eq_comm]
    · rw [if_neg hk, ← SortedMap.mem_toList_iff, SortedMap.mem_ofList_iff h]
      simp [hk]
  exact congrArg SortedMap.toList hmap

/-! ### Merging one member -/

/-- A layer that says one thing is merged into what stands under its name. -/
theorem merge_single (base : Document) (name : String) (d : Document) :
    base.merge (.table [(name, d)]) =
      .table (putMember name (((memberOf? base.members name).map (·.merge d)).getD d)
        base.members) := by
  cases base with
  | table old =>
    rw [merge, mergeMembers, mergeMembers, lastMember?_eq]
    change _ = table (putMember name (((memberOf? old name).map (·.merge d)).getD d) old)
    cases memberOf? old name <;> rfl
  | _ => rfl

theorem merge_empty (base : Document) : base.merge (.table []) = .table base.members := by
  cases base <;> rfl

end LeaseBroker.Document
