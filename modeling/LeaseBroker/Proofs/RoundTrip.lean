import LeaseBroker.Proofs.CapacityCoding
import LeaseBroker.Proofs.JsonPrinting
import LeaseBroker.Settings.Writing

/-!
# Written settings are read back

Whatever can be set is read back as it was from the JSON value it is written as, and from either of
the texts of that value. The kind of a class stands in front of its members and is found there.
-/

set_option autoImplicit false

namespace LeaseBroker

namespace Document

/-- Members of different names are only put into order. -/
theorem sortedMembers_eq {members sorted : List (String × Document)}
    (hnames : (members.map (·.1)).Nodup) (hsame : ∀ m, m ∈ sorted ↔ m ∈ members)
    (hascending : (sorted.map (·.1)).Pairwise (· < ·)) : sortedMembers members = sorted := by
  have hkeys : ((sortedMembers members).map (·.1)).Pairwise (· < ·) :=
    SortedMap.keys_lt (.ofList members)
  have hnodup : ∀ {l : List (String × Document)}, (l.map (·.1)).Pairwise (· < ·) → l.Nodup := by
    refine fun h => .of_map _ (h.imp ?_)
    rintro a _ hlt rfl
    exact String.lt_irrefl a hlt
  have hperm : (sortedMembers members).Perm sorted :=
    (List.perm_ext_iff_of_nodup (hnodup hkeys) (hnodup hascending)).mpr fun m =>
      (SortedMap.mem_ofList_iff hnames).trans (hsame m).symm
  have hsorted : sorted.Pairwise fun a b => a.1 < b.1 := List.pairwise_map.mp hascending
  have hsorted' : (sortedMembers members).Pairwise fun a b => a.1 < b.1 :=
    List.pairwise_map.mp hkeys
  exact hperm.eq_of_pairwise (fun _ _ _ _ hab hba => absurd hba (String.lt_asymm hab)) hsorted'
    hsorted

theorem ofItems_map {α : Type} (f : α → Json) (xs : List α) :
    ofItems (xs.map f) = xs.map fun x => ofJson (f x) := by
  induction xs with
  | nil => rfl
  | cons x xs ih => simp [ofItems, ih]

theorem readEach_map {α : Type} {item : Document → Read α} {f : α → Document} {xs : List α}
    (h : ∀ x ∈ xs, item (f x) = .ok x) (i : Nat) : readEach item i (xs.map f) = .ok xs := by
  induction xs generalizing i with
  | nil => rfl
  | cons x xs ih =>
    obtain ⟨hx, hxs⟩ := List.forall_mem_cons.mp h
    rw [List.map_cons, readEach, hx, ih hxs]
    rfl

theorem readList_map {α : Type} {item : Document → Read α} {f : α → Json} {xs : List α}
    (h : ∀ x ∈ xs, item (ofJson (f x)) = .ok x) :
    (ofJson (.array (xs.map f))).readList item = .ok xs := by
  rw [ofJson, ofItems_map, readList]
  exact readEach_map h 0

theorem readCapacity_toInt {c : Capacity} (h : c.IsWritten) :
    (ofJson (.whole c.toInt)).readCapacity = .ok c := by
  rw [readCapacity_ofJson, Capacity.clipped_of_isWritten h]

theorem readInfo_toJson (mode : Mode) (i : DeviceInfo) :
    (ofJson i.toJson).readInfo mode = .ok i := by
  have hsorted : sortedMembers (ofMembers [("id", .string i.id), ("type", .string i.kind),
      ("sw", .string i.software), ("hw", .string i.hardware), ("display", .string i.display)]) =
      [("display", text i.display), ("hw", text i.hardware), ("id", text i.id),
        ("sw", text i.software), ("type", text i.kind)] := by
    apply sortedMembers_eq
    · simp [ofMembers]
    · simp [ofMembers]
      tauto
    · show ["display", "hw", "id", "sw", "type"].Pairwise (· < ·)
      decide
  rw [readInfo, DeviceInfo.toJson, ofJson, Shape.read, hsorted]
  rfl

theorem readString_ofJson (mode : Mode) (s : String) :
    (ofJson (.string s)).readString mode = .ok s := rfl

theorem readStrings_ofTexts (mode : Mode) (texts : List String) :
    (ofJson (.ofTexts texts)).readList (readString mode) = .ok texts :=
  readList_map fun s _ => readString_ofJson mode s

theorem readUnsigned_ofJson (n : Nat) : (ofJson (.whole n)).readUnsigned = .ok n := by
  have hneg : ¬((n : Int) < 0) := by omega
  simp [ofJson, hneg, readUnsigned]

theorem read_applicationShape (mode : Mode) (s : ApplicationSettings) :
    (applicationShape mode).read mode (ofJson s.toJson) = .ok s := by
  have hsorted : sortedMembers (ofMembers [("name", .string s.name),
      ("log_level", .string s.logLevel), ("log_format", .string s.logFormat)]) =
      [("log_format", text s.logFormat), ("log_level", text s.logLevel),
        ("name", text s.name)] := by
    apply sortedMembers_eq
    · simp [ofMembers]
    · simp [ofMembers]
      tauto
    · show ["log_format", "log_level", "name"].Pairwise (· < ·)
      decide
  rw [ApplicationSettings.toJson, ofJson, Shape.read, hsorted]
  rfl

theorem read_brokerShape (mode : Mode) (s : BrokerSettings) :
    (brokerShape mode).read mode (ofJson s.toJson) = .ok s := by
  have hsorted (interval allow deny : Json) : sortedMembers (ofMembers
      [("rescan_interval_secs", interval), ("allowlist", allow), ("denylist", deny)]) =
      [("allowlist", ofJson allow), ("denylist", ofJson deny),
        ("rescan_interval_secs", ofJson interval)] := by
    apply sortedMembers_eq
    · simp [ofMembers]
    · simp [ofMembers]
      tauto
    · show ["allowlist", "denylist", "rescan_interval_secs"].Pairwise (· < ·)
      decide
  rw [BrokerSettings.toJson, ofJson, Shape.read, hsorted]
  simp only [Shape.readMembers, brokerShape, readStrings_ofTexts, readUnsigned_ofJson, inside]
  rfl

theorem readSimulated_members (mode : Mode) {s : SimulatedSettings} (h : s.capacity.IsWritten) :
    readSimulated mode (ofJson (.object s.members)) = .ok s := by
  have hsorted (name capacity devices : Json) : sortedMembers (ofMembers
      [("name", name), ("capacity", capacity), ("devices", devices)]) =
      [("capacity", ofJson capacity), ("devices", ofJson devices), ("name", ofJson name)] := by
    apply sortedMembers_eq
    · simp [ofMembers]
    · simp [ofMembers]
      tauto
    · show ["capacity", "devices", "name"].Pairwise (· < ·)
      decide
  have hdevices : (ofJson (.array (s.devices.map DeviceInfo.toJson))).readList (readInfo mode) =
      .ok s.devices := readList_map fun i _ => readInfo_toJson mode i
  rw [readSimulated, SimulatedSettings.members, ofJson, Shape.read, hsorted]
  simp only [Shape.readMembers, simulatedShape, readCapacity_toInt h, hdevices, readString_ofJson,
    inside]
  rfl

theorem readSerial_members (mode : Mode) {s : SerialSettings} (h : s.capacity.IsWritten) :
    readSerial mode (ofJson (.object s.members)) = .ok s := by
  have hsorted (name directory capacity : Json) : sortedMembers (ofMembers
      [("name", name), ("dir", directory), ("capacity", capacity)]) =
      [("capacity", ofJson capacity), ("dir", ofJson directory), ("name", ofJson name)] := by
    apply sortedMembers_eq
    · simp [ofMembers]
    · simp [ofMembers]
      tauto
    · show ["capacity", "dir", "name"].Pairwise (· < ·)
      decide
  rw [readSerial, SerialSettings.members, ofJson, Shape.read, hsorted]
  simp only [Shape.readMembers, serialShape, readCapacity_toInt h, inside]
  rfl

/-- The kind that a class is read as. -/
def Kind.of : ClassSettings → Kind
  | .simulated _ => .simulated
  | .serial _ => .serial

theorem readKind_kind (mode : Mode) (s : ClassSettings) :
    readKind mode (text s.kind) = .ok (Kind.of s) := by
  cases s <;> rfl

theorem memberOf?_cons {members : List (String × Document)} {name : String} (d : Document)
    (h : ∀ m ∈ members, m.1 ≠ name) : memberOf? ((name, d) :: members) name = some d := by
  have hnone : members.reverse.find? (·.1 == name) = none := by simpa using h
  rw [memberOf?, SortedMap.get?_ofList, List.reverse_cons, List.find?_append, hnone]
  simp

theorem ofMembers_eq_map (members : List (String × Json)) :
    ofMembers members = members.map fun m => (m.1, ofJson m.2) := by
  induction members with
  | nil => rfl
  | cons m members ih =>
    obtain ⟨name, j⟩ := m
    simp [ofMembers, ih]

/-- A class whose kind stands in front of its members is read as a class of that kind. -/
theorem readClass_cons (mode : Mode) (s : ClassSettings) {members : List (String × Json)}
    (h : ∀ m ∈ members, m.1 ≠ "kind") :
    readClass mode (ofJson (.object (("kind", .string s.kind) :: members))) =
      readContent mode (Kind.of s) (ofJson (.object members)) := by
  have hnames : ∀ m ∈ ofMembers members, m.1 ≠ "kind" := by
    rw [ofMembers_eq_map]
    exact List.forall_mem_map.mpr h
  have hrest : (ofMembers members).filter (·.1 != "kind") = ofMembers members := by
    rw [List.filter_eq_self]
    exact fun m hm => bne_iff_ne.mpr (hnames m hm)
  rw [ofJson, ofMembers, readClass, memberOf?_cons _ hnames]
  simp only [ofJson, readKind_kind, inside, List.filter_cons, bne_self_eq_false, hrest]
  rfl

theorem readClass_toJson (mode : Mode) {s : ClassSettings} (h : s.capacity.IsWritten) :
    readClass mode (ofJson s.toJson) = .ok s := by
  cases s with
  | simulated s =>
    rw [ClassSettings.toJson, readClass_cons _ _ (by simp [SimulatedSettings.members]), Kind.of,
      readContent, readSimulated_members _ h]
    rfl
  | serial s =>
    rw [ClassSettings.toJson, readClass_cons _ _ (by simp [SerialSettings.members]), Kind.of,
      readContent, readSerial_members _ h]
    rfl

theorem readSettings_toJson (mode : Mode) {s : Settings}
    (h : ∀ c ∈ s.classes, c.capacity.IsWritten) : readSettings mode (ofJson s.toJson) = .ok s := by
  have hsorted (application broker classes : Json) : sortedMembers (ofMembers
      [("application", application), ("broker", broker), ("classes", classes)]) =
      [("application", ofJson application), ("broker", ofJson broker),
        ("classes", ofJson classes)] := by
    apply sortedMembers_eq
    · simp [ofMembers]
    · simp [ofMembers]
    · show ["application", "broker", "classes"].Pairwise (· < ·)
      decide
  have hclasses : (ofJson (.array (s.classes.map ClassSettings.toJson))).readList (readClass mode) =
      .ok s.classes := readList_map fun c hc => readClass_toJson mode (h c hc)
  rw [readSettings, Settings.toJson, ofJson, Shape.read, hsorted]
  simp only [Shape.readMembers, settingsShape, read_applicationShape, read_brokerShape, hclasses,
    inside]
  rfl

end Document

theorem Json.itemsInWords_map {α : Type} {f : α → Json} {xs : List α}
    (h : ∀ x ∈ xs, (f x).InWords) : ItemsInWords (xs.map f) := by
  induction xs with
  | nil => trivial
  | cons x xs ih =>
    obtain ⟨hx, hxs⟩ := List.forall_mem_cons.mp h
    exact ⟨hx, ih hxs⟩

theorem Capacity.toInt_inWords (c : Capacity) : (Json.whole c.toInt).InWords := by
  obtain ⟨hlow, hhigh⟩ := Word.fitsSigned_iff.mp c.toInt_fits
  have hlimit : Word.signedLimit < Word.unsignedLimit := by decide
  rw [Json.InWords, Json.minWhole, Json.maxWhole]
  omega

theorem DeviceInfo.toJson_inWords (i : DeviceInfo) : i.toJson.InWords :=
  ⟨trivial, trivial, trivial, trivial, trivial, trivial⟩

theorem ClassSettings.toJson_inWords (s : ClassSettings) : s.toJson.InWords := by
  cases s with
  | simulated s =>
    have hdevices : Json.ItemsInWords (s.devices.map DeviceInfo.toJson) :=
      Json.itemsInWords_map fun i _ => i.toJson_inWords
    exact ⟨trivial, trivial, s.capacity.toInt_inWords, hdevices, trivial⟩
  | serial s => exact ⟨trivial, trivial, trivial, s.capacity.toInt_inWords, trivial⟩

namespace Settings

theorem toJson_inWords {s : Settings} (h : s.broker.rescanInterval < Word.unsignedLimit) :
    s.toJson.InWords := by
  have hinterval : (Json.whole s.broker.rescanInterval).InWords := by
    have hlow : Json.minWhole ≤ 0 := by decide
    rw [Json.InWords, Json.maxWhole]
    omega
  have hallow : Json.ItemsInWords (s.broker.allow.map .string) :=
    Json.itemsInWords_map fun _ _ => trivial
  have hdeny : Json.ItemsInWords (s.broker.deny.map .string) :=
    Json.itemsInWords_map fun _ _ => trivial
  have hclasses : Json.ItemsInWords (s.classes.map ClassSettings.toJson) :=
    Json.itemsInWords_map fun c _ => c.toJson_inWords
  exact ⟨⟨trivial, trivial, trivial, trivial⟩, ⟨hinterval, hallow, hdeny, trivial⟩, hclasses,
    trivial⟩

/-- Settings are read back as they were from the JSON value that they are written as and from both
texts of that value, and settings that have been loaded are always of the kind that can be
written. -/
theorem written_settings_read_back :
    (∀ s : Settings, (∀ c ∈ s.classes, c.capacity.IsWritten) → ofJson s.toJson = .ok s) ∧
    (∀ s : Settings, s.Writable →
      (Json.parse? s.toJson.compact).map ofJson = some (.ok s) ∧
      (Json.parse? s.toJson.pretty).map ofJson = some (.ok s)) ∧
    (∀ (file : Option String) (environment : List (String × String)) (s : Settings),
      load file environment = .ok s → s.Writable) := by
  have hread : ∀ s : Settings, (∀ c ∈ s.classes, c.capacity.IsWritten) →
      ofJson s.toJson = .ok s := fun s h => Document.readSettings_toJson ⟨.json, false⟩ h
  refine ⟨hread, fun s h => ?_, fun file environment s h => load_writable h⟩
  have hwords : s.toJson.InWords := toJson_inWords h.interval
  constructor
  · rw [Json.parse?_compact hwords, Option.map_some, hread s h.capacities]
  · rw [Json.parse?_pretty hwords, Option.map_some, hread s h.capacities]

/-- Settings with the largest numbers and with characters that are escaped. -/
def largest : Settings where
  application := { name := "The \"large\" pool", logFormat := "json" }
  broker := { rescanInterval := 18446744073709551615, deny := ["BROKEN-1"] }
  classes := [
    .simulated { name := "phones", capacity := .limited 9223372036854775807,
                 devices := [{ id := "P1", kind := "phone-1", display := "two\nlines" }] },
    .serial { capacity := .unlimited }]

theorem largest_writable : largest.Writable where
  interval := by decide
  capacities := by
    intro c hc
    simp only [largest, List.mem_cons, List.not_mem_nil, or_false] at hc
    rcases hc with rfl | rfl
    · show 9223372036854775807 ≤ Capacity.maxWritten
      decide
    · trivial

/-- Settings as they are loaded from a file with one class and a variable. -/
def hourly : Settings where
  broker := { rescanInterval := 3600 }
  classes := [.serial { capacity := .limited 2 }]

theorem load_hourly :
    load (some "[[classes]]\nkind = 'serial_by_id'\ncapacity = 2\n")
      [("DEVPOOL_BROKER__RESCAN_INTERVAL_SECS", "3600")] = .ok hourly :=
  load_eq_ok (by decide +kernel)

theorem written_settings_read_back_largest :
    ofJson largest.toJson = .ok largest ∧
    (Json.parse? largest.toJson.compact).map ofJson = some (.ok largest) ∧
    (Json.parse? largest.toJson.pretty).map ofJson = some (.ok largest) ∧ hourly.Writable := by
  obtain ⟨hvalue, htexts, hloaded⟩ := written_settings_read_back
  obtain ⟨hcompact, hpretty⟩ := htexts largest largest_writable
  exact ⟨hvalue largest largest_writable.capacities, hcompact, hpretty,
    hloaded _ _ hourly load_hourly⟩

end Settings

end LeaseBroker
