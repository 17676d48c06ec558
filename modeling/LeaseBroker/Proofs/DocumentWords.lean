import LeaseBroker.Settings.Layers
import LeaseBroker.Proofs.SortedMap
import LeaseBroker.Proofs.TomlDocuments

/-!
# Numbers in documents

Whole numbers have 64 bits wherever they come from. The readers of settings files and of overrides
refuse larger ones or take them for texts, and merging adds no new numbers.
-/

set_option autoImplicit false

namespace LeaseBroker

/-- Whether every number in a document fits 64 bits, with a sign or without one as it was read. -/
inductive Document.InWords : Document → Prop
  | null : InWords .null
  | bool (b : Bool) : InWords (.bool b)
  | signed {n : Int} (fits : Word.fitsSigned n = true) : InWords (.signed n)
  | unsigned {n : Nat} (fits : n < Word.unsignedLimit) : InWords (.unsigned n)
  | float (x : Double) : InWords (.float x)
  | char (c : Char) : InWords (.char c)
  | text (s : String) : InWords (.text s)
  | list {items : List Document} (each : ∀ d ∈ items, InWords d) : InWords (.list items)
  | table {members : List (String × Document)} (each : ∀ m ∈ members, InWords m.2) :
      InWords (.table members)

/-- Numbers are read in words, and stay so in lists and tables. -/
theorem Document.inWords_buildsUp : Toml.BuildsUp Document.InWords fun _ => True where
  noNames := trivial
  newName _ _ := trivial
  bool := .bool
  signed := .signed
  float := .float
  text := .text
  list := .list
  table _ := .table

namespace Text

theorem readDigits_lt {digits : List Char} : ∀ {n m : Nat}, n < Word.unsignedLimit →
    readDigits n digits = .ok m → m < Word.unsignedLimit := by
  induction digits with
  | nil =>
    intro n m hn h
    cases h
    exact hn
  | cons c digits ih =>
    intro n m hn h
    rw [readDigits] at h
    split at h
    · cases h
    · simp only at h
      split at h
      · exact ih ‹_› h
      · cases h

theorem readNumeral_lt {s : String} {n : Nat} (h : readNumeral s = .ok n) :
    n < Word.unsignedLimit := by
  unfold readNumeral at h
  split at h
  · cases h
  · cases h
  · exact readDigits_lt (by decide) h
  · exact readDigits_lt (by decide) h

theorem unsigned?_lt {s : String} {n : Nat} (h : unsigned? s = some n) :
    n < Word.unsignedLimit := by
  rw [unsigned?] at h
  cases hread : readNumeral s with
  | error fault => simp [hread, Except.toOption] at h
  | ok m =>
    rw [hread] at h
    cases h
    exact readNumeral_lt hread

theorem signed?_fits {s : String} {n : Int} (h : signed? s = some n) :
    Word.fitsSigned n = true := by
  have hpos : (0 : Int) < Word.signedLimit := by decide
  unfold signed? at h
  split at h
  · split at h
    · split at h
      · cases h
        exact Word.fitsSigned_iff.mpr ⟨by omega, by omega⟩
      · cases h
    · cases h
  · obtain ⟨m, -, h⟩ := Option.bind_eq_some_iff.mp h
    split at h
    · cases h
      exact Word.fitsSigned_iff.mpr ⟨by omega, by omega⟩
    · cases h

end Text

namespace Override
open Document

theorem bare_inWords (s : List Char) : (bare s).InWords := by
  unfold bare
  simp only
  split
  · exact .float _
  · exact .unsigned (Text.unsigned?_lt ‹_›)
  · exact .signed (Text.signed?_fits ‹_›)
  · exact .text _

theorem readEach_yields {α : Type} {P : α → Prop} {item : Reader α} (hitem : Yields P item)
    (close : Char) (fuel : Nat) : Yields (fun as => ∀ a ∈ as, P a) (readEach item close fuel) := by
  induction fuel with
  | zero => exact fun s as rest h => by cases h
  | succ fuel ih =>
    intro s as rest h
    unfold readEach at h
    split at h
    · cases h
    · split at h
      · cases h
        simp
      · obtain ⟨⟨a, t⟩, ha, h⟩ := Option.bind_eq_some_iff.mp h
        simp only at h
        split at h
        · obtain ⟨⟨as', u⟩, has, h⟩ := Option.bind_eq_some_iff.mp h
          cases h
          exact List.forall_mem_cons.mpr ⟨hitem ha, ih has⟩
        · split at h
          · cases h
            simpa using hitem ha
          · cases h
        · cases h

theorem readMember_inWords {value : Reader Document} (hvalue : Yields InWords value) :
    Yields (fun m => InWords m.2) (readMember value) := by
  intro s m rest h
  obtain ⟨⟨name, t⟩, -, h⟩ := Option.bind_eq_some_iff.mp h
  simp only at h
  split at h
  · obtain ⟨⟨d, u⟩, hd, h⟩ := Option.bind_eq_some_iff.mp h
    cases h
    exact hvalue hd
  · cases h

theorem readValue_inWords (fuel : Nat) : Yields InWords (readValue fuel) := by
  induction fuel with
  | zero => exact fun s d rest h => by cases h
  | succ fuel ih =>
    intro s d rest h
    rw [readValue] at h
    obtain ⟨⟨d', t⟩, hd, heq⟩ := Option.map_eq_some_iff.mp h
    cases heq
    split at hd
    · cases hd
      exact .bool true
    · cases hd
      exact .bool false
    · obtain ⟨⟨items, u⟩, hitems, heq⟩ := Option.map_eq_some_iff.mp hd
      cases heq
      exact .list (readEach_yields ih _ _ hitems)
    · obtain ⟨⟨members, u⟩, hmembers, heq⟩ := Option.map_eq_some_iff.mp hd
      cases heq
      exact .table (readEach_yields (readMember_inWords ih) _ _ hmembers)
    · obtain ⟨t, -, heq⟩ := Option.map_eq_some_iff.mp hd
      cases heq
      exact .text _
    · split at hd
      · cases hd
        exact .char _
      · cases hd
    · cases hd
      exact bare_inWords _

theorem value_inWords (text : String) : (value text).InWords := by
  unfold value
  split
  · exact readValue_inWords _ ‹_›
  · exact .text _

theorem nested_inWords {d : Document} (h : d.InWords) (path : List String) :
    (nested d path).InWords := by
  induction path with
  | nil => exact h
  | cons step path ih => exact .table (by simpa [nested] using ih)

theorem document?_inWords {name text : String} {d : Document} (h : document? name text = some d) :
    d.InWords := by
  obtain ⟨path, -, rfl⟩ := Option.map_eq_some_iff.mp h
  exact nested_inWords (value_inWords text) path

end Override

namespace Document

theorem InWords.of_table {members : List (String × Document)}
    (h : (Document.table members).InWords) : ∀ m ∈ members, m.2.InWords := by
  cases h with
  | table each => exact each

theorem mem_of_lastMember? {members : List (String × Document)} {name : String} {d : Document}
    (h : lastMember? members name = some d) : ∃ m ∈ members, m.2 = d := by
  obtain ⟨m, hm, rfl⟩ := Option.map_eq_some_iff.mp h
  exact ⟨m, by simpa using List.mem_of_find?_eq_some hm, rfl⟩

theorem mergeMembers_inWords {members : List (String × Document)}
    (h : ∀ m ∈ members, m.2.InWords ∧
      ∀ {base : Document}, base.InWords → (base.merge m.2).InWords) :
    ∀ {old : List (String × Document)}, (∀ m ∈ old, m.2.InWords) →
      ∀ m ∈ mergeMembers old members, m.2.InWords := by
  induction members with
  | nil => exact fun hold => hold
  | cons m members ih =>
    intro old hold
    obtain ⟨name, d⟩ := m
    obtain ⟨⟨hd, hmerge⟩, hmembers⟩ := List.forall_mem_cons.mp h
    rw [mergeMembers]
    refine ih hmembers fun m hm => ?_
    rcases mem_putMember hm with heq | hm
    · rw [heq]
      split
      · rename_i base hbase
        obtain ⟨m', hm', rfl⟩ := mem_of_lastMember? hbase
        exact hmerge (hold m' hm')
      · exact hd
    · exact hold m hm

theorem merge_inWords {base later : Document} (hbase : base.InWords) (hlater : later.InWords) :
    (base.merge later).InWords := by
  induction hlater generalizing base with
  | table each ih =>
    unfold merge
    split
    · exact .table (mergeMembers_inWords (fun m hm => ⟨each m hm, ih m hm⟩) hbase.of_table)
    · exact .table each
  | list each => exact .list each
  | signed fits => exact .signed fits
  | unsigned fits => exact .unsigned fits
  | null | bool | float | char | text => unfold merge; constructor

end Document

namespace Settings

theorem overrides_inWords (environment : List (String × String)) :
    (overrides environment).InWords := by
  rw [overrides]
  refine List.foldlRecOn _ _ (.table (by simp)) fun base hbase d hd => ?_
  obtain ⟨v, -, hv⟩ := List.mem_filterMap.mp hd
  exact Document.merge_inWords hbase (Override.document?_inWords hv)

theorem fileDocument?_inWords {file : Option String} {d : Document}
    (h : fileDocument? file = some d) : d.InWords := by
  cases file with
  | none =>
    cases h
    exact .table (by simp)
  | some text => exact Document.inWords_buildsUp.parse? h

end Settings

end LeaseBroker
