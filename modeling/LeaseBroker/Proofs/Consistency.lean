import LeaseBroker.Proofs.SmallLetters
import LeaseBroker.Proofs.SortedMap
import LeaseBroker.Settings.Check

/-!
# What checked settings are

The check accepts exactly the settings that make sense together: a known level and a known format of
the log, classes with names of their own, and two lists that have nothing in common. Of several
faults it reports the first one, and of several repeated names or doubly listed devices the first
one in the order of the file.
-/

set_option autoImplicit false

namespace LeaseBroker

/-! ### Repeated names -/

theorem firstRepeated?_eq_none_iff {seen : SortedSet String} {names : List String} :
    firstRepeated? seen names = none ↔
      names.Nodup ∧ ∀ name ∈ names, seen.contains name = false := by
  induction names generalizing seen with
  | nil => simp [firstRepeated?]
  | cons first rest ih =>
    rw [firstRepeated?, List.nodup_cons, List.forall_mem_cons]
    split
    · rename_i hseen
      simp [hseen]
    · rename_i hseen
      have hadd (name : String) : (seen.add first).contains name = false ↔
          name ≠ first ∧ seen.contains name = false := by
        rw [← Bool.not_eq_true, SortedSet.contains_add, not_or, Bool.not_eq_true]
      simp only [ih, hadd, hseen]
      grind

theorem firstRepeated?_eq_some_iff {seen : SortedSet String} {names : List String}
    {name : String} : firstRepeated? seen names = some name ↔
      ∃ front back, names = front ++ name :: back ∧ firstRepeated? seen front = none ∧
        (seen.contains name = true ∨ name ∈ front) := by
  induction names generalizing seen with
  | nil => simp [firstRepeated?]
  | cons first rest ih =>
    rw [firstRepeated?]
    split
    · rename_i hseen
      constructor
      · intro h
        obtain rfl := Option.some.inj h
        exact ⟨[], rest, rfl, rfl, Or.inl hseen⟩
      · rintro ⟨front, back, hnames, hfront, _⟩
        cases front with
        | nil => rw [(List.cons.inj hnames).1]
        | cons i front =>
          obtain ⟨rfl, _⟩ := List.cons.inj hnames
          rw [firstRepeated?, if_pos hseen] at hfront
          cases hfront
    · rename_i hseen
      rw [ih]
      constructor
      · rintro ⟨front, back, rfl, hfront, hname⟩
        refine ⟨first :: front, back, rfl, ?_, ?_⟩
        · rw [firstRepeated?, if_neg hseen, hfront]
        · rw [SortedSet.contains_add] at hname
          grind
      · rintro ⟨front, back, hnames, hfront, hname⟩
        cases front with
        | nil =>
          obtain ⟨rfl, _⟩ := List.cons.inj hnames
          exact absurd hname (by simpa using hseen)
        | cons i front =>
          obtain ⟨rfl, rfl⟩ := List.cons.inj hnames
          rw [firstRepeated?, if_neg hseen] at hfront
          refine ⟨front, back, rfl, hfront, ?_⟩
          rw [SortedSet.contains_add]
          grind

namespace Settings
variable {s : Settings}

def RepeatsFirst (s : Settings) (c : ClassSettings) : Prop :=
  ∃ front back, s.classes = front ++ c :: back ∧
    (front.map ClassSettings.name).Nodup ∧ c.name ∈ front.map ClassSettings.name

def DeniedFirst (s : Settings) (id : DeviceId) : Prop :=
  ∃ front back, s.broker.allow = front ++ id :: back ∧
    (∀ i ∈ front, i ∉ s.broker.deny) ∧ id ∈ s.broker.deny

theorem duplicateClass?_eq_none_iff :
    s.duplicateClass? = none ↔ (s.classes.map ClassSettings.name).Nodup := by
  rw [duplicateClass?, firstRepeated?_eq_none_iff]
  simp [SortedMap.contains]

theorem duplicateClass?_eq_some_iff {name : String} :
    s.duplicateClass? = some name ↔ ∃ c, s.RepeatsFirst c ∧ c.name = name := by
  rw [duplicateClass?, firstRepeated?_eq_some_iff]
  simp only [firstRepeated?_eq_none_iff]
  constructor
  · rintro ⟨front, back, hnames, ⟨hnodup, _⟩, hname⟩
    obtain ⟨classes, rest, hclasses, rfl, hrest⟩ := List.map_eq_append_iff.mp hnames
    obtain ⟨c, later, rfl, rfl, _⟩ := List.map_eq_cons_iff.mp hrest
    have hrepeated : c.name ∈ classes.map ClassSettings.name :=
      hname.resolve_left (by simp [SortedMap.contains])
    exact ⟨c, ⟨classes, later, hclasses, hnodup, hrepeated⟩, rfl⟩
  · rintro ⟨c, ⟨front, back, hclasses, hnodup, hname⟩, rfl⟩
    refine ⟨front.map ClassSettings.name, back.map ClassSettings.name, ?_, ⟨hnodup, ?_⟩,
      Or.inr hname⟩
    · rw [hclasses, List.map_append, List.map_cons]
    · simp [SortedMap.contains]

theorem listedTwice?_eq_none_iff :
    s.listedTwice? = none ↔ ∀ id ∈ s.broker.allow, id ∉ s.broker.deny := by
  simp only [listedTwice?, List.find?_eq_none, SortedSet.contains_ofList]

theorem listedTwice?_eq_some_iff {id : DeviceId} :
    s.listedTwice? = some id ↔ s.DeniedFirst id := by
  simp only [listedTwice?, List.find?_eq_some_iff_append, SortedSet.contains_ofList,
    Bool.not_eq_true', ← Bool.not_eq_true]
  constructor
  · rintro ⟨hdenied, front, back, hallow, hfront⟩
    exact ⟨front, back, hallow, hfront, hdenied⟩
  · rintro ⟨front, back, hallow, hfront, hdenied⟩
    exact ⟨hdenied, front, back, hallow, hfront⟩

/-! ### The check -/

structure Consistent (s : Settings) : Prop where
  level : Unicode.lowercase s.application.logLevel ∈ levelNames
  format : s.application.logFormat ∈ formatNames
  names : (s.classes.map ClassSettings.name).Nodup
  lists : ∀ id ∈ s.broker.allow, id ∉ s.broker.deny

/-- A fault of settings in front of which there is no other. -/
inductive FirstFault (s : Settings) : SettingsFault → Prop where
  | logLevel (level : Unicode.lowercase s.application.logLevel ∉ levelNames) :
    FirstFault s (.logLevel s.application.logLevel)
  | logFormat (level : Unicode.lowercase s.application.logLevel ∈ levelNames)
      (format : s.application.logFormat ∉ formatNames) :
    FirstFault s (.logFormat s.application.logFormat)
  | duplicateClass (level : Unicode.lowercase s.application.logLevel ∈ levelNames)
      (format : s.application.logFormat ∈ formatNames) {c : ClassSettings}
      (name : s.RepeatsFirst c) :
    FirstFault s (.duplicateClass c.name)
  | listedTwice (level : Unicode.lowercase s.application.logLevel ∈ levelNames)
      (format : s.application.logFormat ∈ formatNames)
      (names : (s.classes.map ClassSettings.name).Nodup) {id : DeviceId}
      (list : s.DeniedFirst id) :
    FirstFault s (.listedTwice id)

theorem Consistent.check_eq (h : s.Consistent) : s.check = .ok () := by
  have hnames := duplicateClass?_eq_none_iff.mpr h.names
  have hlists := listedTwice?_eq_none_iff.mpr h.lists
  simp [check, h.level, h.format, hnames, hlists]

theorem FirstFault.check_eq {f : SettingsFault} (h : s.FirstFault f) : s.check = .error f := by
  cases h with
  | logLevel level => simp [check, level]
  | logFormat level format => simp [check, level, format]
  | duplicateClass level format name =>
    have hname := duplicateClass?_eq_some_iff.mpr ⟨_, name, rfl⟩
    simp [check, level, format, hname]
  | listedTwice level format names list =>
    have hnames := duplicateClass?_eq_none_iff.mpr names
    have hlist := listedTwice?_eq_some_iff.mpr list
    simp [check, level, format, hnames, hlist]

theorem consistent_or_firstFault (s : Settings) : s.Consistent ∨ ∃ f, s.FirstFault f := by
  by_cases level : Unicode.lowercase s.application.logLevel ∈ levelNames
  case neg => exact Or.inr ⟨_, .logLevel level⟩
  by_cases format : s.application.logFormat ∈ formatNames
  case neg => exact Or.inr ⟨_, .logFormat level format⟩
  cases hname : s.duplicateClass? with
  | some name =>
    obtain ⟨c, hrepeats, _⟩ := duplicateClass?_eq_some_iff.mp hname
    exact Or.inr ⟨_, .duplicateClass level format hrepeats⟩
  | none =>
    have names := duplicateClass?_eq_none_iff.mp hname
    cases hlist : s.listedTwice? with
    | some id =>
      have hdenied : s.DeniedFirst id := listedTwice?_eq_some_iff.mp hlist
      exact Or.inr ⟨_, .listedTwice level format names hdenied⟩
    | none => exact Or.inl ⟨level, format, names, listedTwice?_eq_none_iff.mp hlist⟩

theorem consistent_of_check (h : s.check = .ok ()) : s.Consistent := by
  rcases s.consistent_or_firstFault with hconsistent | ⟨f, hfirst⟩
  · exact hconsistent
  · rw [hfirst.check_eq] at h
    cases h

/-- Of a level nothing counts but its letters, each in either case of ASCII. -/
theorem lowercase_mem_levelNames (level : String) :
    Unicode.lowercase level ∈ levelNames ↔ level.toLower ∈ levelNames := by
  have hplain : ∀ word ∈ levelNames, Unicode.IsPlainWord word := by decide
  have hword : ∀ word ∈ levelNames, (word = Unicode.lowercase level ↔ word = level.toLower) := by
    intro word hmem
    rw [eq_comm, Unicode.lowercase_eq_iff (hplain word hmem), eq_comm]
  constructor
  · intro h
    have hsame := (hword _ h).mp rfl
    rwa [← hsame]
  · intro h
    have hsame := (hword _ h).mpr rfl
    rwa [← hsame]

/-- The check accepts settings exactly if they are consistent, and reports a fault exactly if it is
the first one. Only letters of ASCII can make a level that is accepted. -/
theorem check_exact (s : Settings) :
    (s.check = .ok () ↔ s.Consistent) ∧
    (∀ f, s.check = .error f ↔ s.FirstFault f) ∧
    (Unicode.lowercase s.application.logLevel ∈ levelNames ↔
      s.application.logLevel.toLower ∈ levelNames) := by
  refine ⟨⟨consistent_of_check, Consistent.check_eq⟩, fun f => ⟨fun hf => ?_, FirstFault.check_eq⟩,
    lowercase_mem_levelNames _⟩
  rcases s.consistent_or_firstFault with hconsistent | ⟨g, hfirst⟩
  · rw [hconsistent.check_eq] at hf
    cases hf
  · rw [hfirst.check_eq] at hf
    cases hf
    exact hfirst

/-- Two serial classes without names of their own share the default one. -/
example : ({ classes := [.serial {}, .serial {}] } : Settings).check =
    .error (.duplicateClass "serial_by_id") := by
  decide +kernel

end Settings

end LeaseBroker
