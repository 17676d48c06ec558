import LeaseBroker.Proofs.RecordFields
import LeaseBroker.Proofs.SmallLetters

/-!
# What a variable overrides

A variable that is named for a setting changes that setting and nothing else, whatever the file says
and whatever it leaves out, unless the file writes the section of the setting as a list. A list is
not merged with the table that the variable stands for but gives way to it, so what the list said of
the section is lost.
-/

set_option autoImplicit false

namespace LeaseBroker

namespace Override

theorem contains_toLower (c : Char) : blanks.contains c.toLower = blanks.contains c := by
  by_cases hascii : c.toNat < 128
  · have hcodes : ∀ code < 128,
        blanks.contains (Char.ofNat code).toLower = blanks.contains (Char.ofNat code) := by
      decide +kernel
    simpa only [Char.ofNat_toNat] using hcodes c.toNat hascii
  · rw [Unicode.toLower_of_not_ascii (Nat.le_of_not_lt hascii)]

theorem toLower_eq_iff {a b : String} :
    a.toLower = b.toLower ↔ a.toList.map Char.toLower = b.toList.map Char.toLower := by
  rw [← String.toList_map, ← String.toList_map, String.toList_inj]
  rfl

theorem map_toLower_trim (s : List Char) :
    (trim s).map Char.toLower = trim (s.map Char.toLower) := by
  have hblanks : blanks.contains ∘ Char.toLower = blanks.contains := funext contains_toLower
  simp only [trim, List.dropWhile_map, ← List.map_reverse, hblanks]

theorem path?_congr {a b : String} (h : a.toLower = b.toLower) : path? a = path? b := by
  rw [path?, path?, map_toLower_trim, map_toLower_trim, toLower_eq_iff.mp h]

end Override

/-! ### Settings that a variable is named for -/

inductive Setting where
  | name
  | logLevel
  | logFormat
  | rescanInterval

namespace Setting

def variableName : Setting → String
  | name => "DEVPOOL_APPLICATION__NAME"
  | logLevel => "DEVPOOL_APPLICATION__LOG_LEVEL"
  | logFormat => "DEVPOOL_APPLICATION__LOG_FORMAT"
  | rescanInterval => "DEVPOOL_BROKER__RESCAN_INTERVAL_SECS"

def group : Setting → String
  | name | logLevel | logFormat => "application"
  | rescanInterval => "broker"

def field : Setting → String
  | name => "name"
  | logLevel => "log_level"
  | logFormat => "log_format"
  | rescanInterval => "rescan_interval_secs"

abbrev Value : Setting → Type
  | name | logLevel | logFormat => String
  | rescanInterval => Nat

def read : (x : Setting) → Document → Document.Read x.Value
  | name, d | logLevel, d | logFormat, d => d.readString ⟨.layered, false⟩
  | rescanInterval, d => d.readUnsigned

def set : (x : Setting) → x.Value → Settings → Settings
  | name, v, s => { s with application.name := v }
  | logLevel, v, s => { s with application.logLevel := v }
  | logFormat, v, s => { s with application.logFormat := v }
  | rescanInterval, v, s => { s with broker.rescanInterval := v }

/-- Forgets all that is set in the section of a setting. -/
def resetGroup : Setting → Settings → Settings
  | name, s | logLevel, s | logFormat, s => { s with application := {} }
  | rescanInterval, s => { s with broker := {} }

theorem path?_variableName (x : Setting) : Override.path? x.variableName = some [x.group, x.field] := by
  cases x <;> decide +kernel

end Setting

namespace Document

theorem merge_of_read {x : Setting} {d : Document} {v : x.Value} (h : x.read d = .ok v)
    (base : Document) : base.merge d = d := by
  cases d with
  | table members => cases x <;> cases h
  | _ => rfl

theorem hasField_application (mode : Mode) : (settingsShape mode).HasField "application"
    ((applicationShape mode).read mode) Settings.application
    fun a s => { s with application := a } where
  own s d := by
    simp only [settingsShape]
    cases (applicationShape mode).read mode d <;> rfl
  other hne a s d := by
    simp only [settingsShape]
    split
    · exact absurd rfl hne
    · cases (brokerShape mode).read mode d <;> rfl
    · cases d.readList (readClass mode) <;> rfl
    · rfl
  get_set _ _ := rfl
  set_get _ := rfl
  set_set _ _ _ := rfl

theorem hasField_broker (mode : Mode) : (settingsShape mode).HasField "broker"
    ((brokerShape mode).read mode) Settings.broker fun b s => { s with broker := b } where
  own s d := by
    simp only [settingsShape]
    cases (brokerShape mode).read mode d <;> rfl
  other hne a s d := by
    simp only [settingsShape]
    split
    · cases (applicationShape mode).read mode d <;> rfl
    · exact absurd rfl hne
    · cases d.readList (readClass mode) <;> rfl
    · rfl
  get_set _ _ := rfl
  set_get _ := rfl
  set_set _ _ _ := rfl

theorem hasField_name (mode : Mode) : (applicationShape mode).HasField "name"
    (readString mode) ApplicationSettings.name fun a s => { s with name := a } where
  own s d := by
    simp only [applicationShape]
    cases d.readString mode <;> rfl
  other hne a s d := by
    simp only [applicationShape]
    split
    · exact absurd rfl hne
    · cases d.readString mode <;> rfl
    · cases d.readString mode <;> rfl
    · rfl
  get_set _ _ := rfl
  set_get _ := rfl
  set_set _ _ _ := rfl

theorem hasField_logLevel (mode : Mode) : (applicationShape mode).HasField "log_level"
    (readString mode) ApplicationSettings.logLevel fun a s => { s with logLevel := a } where
  own s d := by
    simp only [applicationShape]
    cases d.readString mode <;> rfl
  other hne a s d := by
    simp only [applicationShape]
    split
    · cases d.readString mode <;> rfl
    · exact absurd rfl hne
    · cases d.readString mode <;> rfl
    · rfl
  get_set _ _ := rfl
  set_get _ := rfl
  set_set _ _ _ := rfl

theorem hasField_logFormat (mode : Mode) : (applicationShape mode).HasField "log_format"
    (readString mode) ApplicationSettings.logFormat fun a s => { s with logFormat := a } where
  own s d := by
    simp only [applicationShape]
    cases d.readString mode <;> rfl
  other hne a s d := by
    simp only [applicationShape]
    split
    · cases d.readString mode <;> rfl
    · cases d.readString mode <;> rfl
    · exact absurd rfl hne
    · rfl
  get_set _ _ := rfl
  set_get _ := rfl
  set_set _ _ _ := rfl

theorem hasField_rescanInterval (mode : Mode) : (brokerShape mode).HasField "rescan_interval_secs"
    readUnsigned BrokerSettings.rescanInterval fun n s => { s with rescanInterval := n } where
  own s d := by
    simp only [brokerShape]
    cases d.readUnsigned <;> rfl
  other hne a s d := by
    simp only [brokerShape]
    split
    · exact absurd rfl hne
    · cases d.readList (readString mode) <;> rfl
    · cases d.readList (readString mode) <;> rfl
    · rfl
  get_set _ _ := rfl
  set_get _ := rfl
  set_set _ _ _ := rfl

/-! ### Reading what was overridden -/

/-- A value that takes the place of any other is put into a table as it is. -/
theorem merge_plain {d : Document} (hplain : ∀ old : Document, old.merge d = d) (base : Document)
    (field : String) :
    base.merge (.table [(field, d)]) = .table (putMember field d base.members) := by
  rw [merge_single]
  cases memberOf? base.members field with
  | none => rfl
  | some old => rw [Option.map_some, Option.getD_some, hplain]

def listsAt (d : Document) (name : String) : Bool :=
  match memberOf? d.members name with
  | some (.list _) => true
  | _ => false

/-- When one value is merged into settings, it is set in its section. The rest of the section is
what it was, unless it was written as a list. -/
theorem read_merge_nested {mode : Mode} {σ α : Type} {inner : Shape σ} {group field : String}
    {read : Document → Read α} {get : Settings → σ} {set : σ → Settings → Settings}
    {getField : σ → α} {setField : α → σ → σ}
    (hgroup : (settingsShape mode).HasField group (inner.read mode) get set)
    (hfield : inner.HasField field read getField setField) (hstart : get {} = inner.start)
    {d : Document} (hd : d.Distinct) {s : Settings}
    (h : readSettings mode (.table d.members) = .ok s) {v : Document} {a : α}
    (hv : read v = .ok a) (hplain : ∀ old : Document, old.merge v = v) :
    readSettings mode (d.merge (Override.nested v [group, field])) =
      .ok (set (setField a (if d.listsAt group then inner.start else get s)) s) := by
  have hfresh : inner.read mode (.table (putMember field v [])) = .ok (setField a inner.start) :=
    hfield.read_putMember rfl .nil hv
  rw [Override.nested, Override.nested, Override.nested, merge_single, listsAt]
  refine hgroup.read_putMember h hd.nodup_members ?_
  cases hmember : memberOf? d.members group with
  | none =>
    have hdefault : get s = inner.start := (hgroup.get_of_no_member h hmember).trans hstart
    exact hdefault ▸ hfresh
  | some old =>
    have hold := hgroup.read_member h hmember
    rw [Option.map_some, Option.getD_some, merge_plain hplain]
    cases old with
    | table members => exact hfield.read_putMember hold (hd.memberOf? hmember).nodup_members hv
    | list items => exact hfresh
    | _ => cases hold

end Document

/-! ### Loading with a variable -/

namespace Settings

def listsGroup (file : Option String) (group : String) : Bool :=
  (fileDocument? file).any (·.listsAt group)

theorem fileDocument?_distinct {file : Option String} {d : Document}
    (h : fileDocument? file = some d) : d.Distinct := by
  cases file with
  | none =>
    cases h
    exact .table .nil (by simp)
  | some text => exact Document.distinct_buildsUp.parse? h

theorem load_eq_ok_iff {file : Option String} {environment : List (String × String)}
    {s : Settings} : load file environment = .ok s ↔ ∃ d, fileDocument? file = some d ∧
      (d.merge (overrides environment)).readSettings ⟨.layered, false⟩ = .ok s := by
  unfold load
  cases fileDocument? file with
  | none => simp
  | some d =>
    simp only [Option.some.injEq, exists_eq_left']
    cases (d.merge (overrides environment)).readSettings ⟨.layered, false⟩ <;> simp

theorem overrides_single {name text : String} {step : String} {path : List String}
    (h : Override.path? name = some (step :: path)) :
    overrides [(name, text)] = Override.nested (Override.value text) (step :: path) := by
  simp only [overrides, List.filterMap_cons, List.filterMap_nil, Override.document?, h,
    Option.map_some, List.foldl_cons, List.foldl_nil]
  rfl

variable {file : Option String} {s : Settings} {name text : String}

theorem load_override_in {σ α : Type} {inner : Document.Shape σ} {group field : String}
    {read : Document → Document.Read α} {get : Settings → σ} {set : σ → Settings → Settings}
    {getField : σ → α} {setField : α → σ → σ}
    (hgroup : (Document.settingsShape ⟨.layered, false⟩).HasField group
      (inner.read ⟨.layered, false⟩) get set)
    (hfield : inner.HasField field read getField setField) (hstart : get {} = inner.start)
    (hload : load file [] = .ok s) (hpath : Override.path? name = some [group, field]) {a : α}
    (hv : read (Override.value text) = .ok a)
    (hplain : ∀ old : Document, old.merge (Override.value text) = Override.value text) :
    load file [(name, text)] =
      .ok (set (setField a (if listsGroup file group then inner.start else get s)) s) := by
  obtain ⟨d, hfile, hread⟩ := load_eq_ok_iff.mp hload
  have hempty : overrides [] = .table [] := rfl
  rw [hempty, Document.merge_empty] at hread
  have hmerged := Document.read_merge_nested hgroup hfield hstart (fileDocument?_distinct hfile)
    hread hv hplain
  have hlists : listsGroup file group = d.listsAt group := by
    rw [listsGroup, hfile]
    rfl
  rw [hlists]
  exact load_eq_ok_iff.mpr ⟨d, hfile, overrides_single hpath ▸ hmerged⟩

/-- A variable that is named for a setting, in any case of letters, sets it and changes nothing
else, whatever settings are loaded without it, from a file or without one. Only if the file writes
the section of the setting as a list, all that the list says gives way to the defaults. -/
theorem load_override (x : Setting) (hload : load file [] = .ok s)
    (hname : name.toLower = x.variableName.toLower) {v : x.Value}
    (hvalue : x.read (Override.value text) = .ok v) : load file [(name, text)] =
      .ok (x.set v (if listsGroup file x.group then x.resetGroup s else s)) := by
  have hpath := (Override.path?_congr hname).trans x.path?_variableName
  have hplain := Document.merge_of_read hvalue
  cases x with
  | name =>
    rw [load_override_in (Document.hasField_application _) (Document.hasField_name _) rfl hload
      hpath hvalue hplain, Setting.group]
    cases listsGroup file "application" <;> rfl
  | logLevel =>
    rw [load_override_in (Document.hasField_application _) (Document.hasField_logLevel _) rfl hload
      hpath hvalue hplain, Setting.group]
    cases listsGroup file "application" <;> rfl
  | logFormat =>
    rw [load_override_in (Document.hasField_application _) (Document.hasField_logFormat _) rfl
      hload hpath hvalue hplain, Setting.group]
    cases listsGroup file "application" <;> rfl
  | rescanInterval =>
    rw [load_override_in (Document.hasField_broker _) (Document.hasField_rescanInterval _) rfl
      hload hpath hvalue hplain, Setting.group]
    cases listsGroup file "broker" <;> rfl

/-- A file with one section as a list and one as a table. -/
def labFile : Option String := some "application = [\"Lab\"]\n\n[broker]\nallowlist = [\"A\"]\n"

def labSettings : Settings := { application := { name := "Lab" }, broker := { allow := ["A"] } }

theorem load_labFile : load labFile [] = .ok labSettings := load_eq_ok (by decide +kernel)

/-- The interval changes and the devices that are allowed stay as they are. -/
theorem load_override_interval :
    load labFile [] = .ok labSettings ∧
    Setting.rescanInterval.read (Override.value "30") = .ok (30 : Nat) ∧
    listsGroup labFile "broker" = false ∧
    load labFile [("devpool_BROKER__rescan_interval_secs", "30")] =
      .ok { labSettings with broker.rescanInterval := 30 } := by
  have hname : "devpool_BROKER__rescan_interval_secs".toLower =
      Setting.rescanInterval.variableName.toLower :=
    Override.toLower_eq_iff.mpr (by decide +kernel)
  have hvalue : Setting.rescanInterval.read (Override.value "30") = .ok (30 : Nat) := rfl
  have hlists : listsGroup labFile "broker" = false := by decide +kernel
  have hload := load_override .rescanInterval load_labFile hname hvalue
  rw [Setting.group, hlists] at hload
  exact ⟨load_labFile, hvalue, hlists, hload⟩

/-- The name that is written in a list is lost when a variable sets the level. -/
theorem load_override_listed :
    load labFile [] = .ok labSettings ∧
    Setting.logLevel.read (Override.value "warn") = .ok "warn" ∧
    load labFile [("DEVPOOL_APPLICATION__LOG_LEVEL", "warn")] ≠
      .ok (Setting.logLevel.set "warn" labSettings) := by
  have hreset : load labFile [("DEVPOOL_APPLICATION__LOG_LEVEL", "warn")] =
      .ok { application := { logLevel := "warn" }, broker := { allow := ["A"] } } :=
    load_eq_ok (by decide +kernel)
  refine ⟨load_labFile, rfl, ?_⟩
  rw [hreset]
  intro h
  injection h with h
  exact absurd h (by decide +kernel)

end Settings

end LeaseBroker
