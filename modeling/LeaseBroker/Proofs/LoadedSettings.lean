import LeaseBroker.Proofs.DocumentWords

/-!
# Loaded settings can be written

The numbers in settings that have been loaded have 64 bits, the interval without a sign and the
limits with one. A limit of that size is written as it is.
-/

set_option autoImplicit false

namespace LeaseBroker

/-- Whether a capacity is written as the limit that it is. -/
def Capacity.IsWritten : Capacity → Prop
  | limited max => max ≤ maxWritten
  | unlimited => True

theorem Capacity.exclusive_isWritten : exclusive.IsWritten := by
  show 1 ≤ maxWritten
  decide

/-- The capacity of the devices of a class. -/
def ClassSettings.capacity : ClassSettings → Capacity
  | simulated s => s.capacity
  | serial s => s.capacity

/-- Whether the numbers in settings can be written down: the interval has 64 bits without a sign,
and so has every limit with one. -/
structure Settings.Writable (s : Settings) : Prop where
  interval : s.broker.rescanInterval < Word.unsignedLimit
  capacities : ∀ c ∈ s.classes, c.capacity.IsWritten

theorem Settings.default_writable : ({} : Settings).Writable where
  interval := by decide
  capacities := by simp

namespace Document

theorem bind_eq_ok {α β : Type} {x : Read α} {f : α → Read β} {b : β} :
    (x >>= f) = .ok b ↔ ∃ a, x = .ok a ∧ f a = .ok b := by
  cases x <;> simp [bind, Except.bind]

theorem map_eq_ok {α β : Type} {x : Read α} {f : α → β} {b : β} :
    x.map f = .ok b ↔ ∃ a, x = .ok a ∧ f a = b := by
  cases x <;> simp [Except.map]

theorem mapError_eq_ok {α : Type} {x : Read α} {f : Fault → Fault} {a : α} :
    x.mapError f = .ok a ↔ x = .ok a := by
  cases x <;> simp [Except.mapError]

theorem inside_eq_ok {α : Type} {step : String} {x : Read α} {a : α} :
    inside step x = .ok a ↔ x = .ok a := by
  cases x <;> simp [inside]

theorem readEach_forall {α : Type} {P : α → Prop} {item : Document → Read α}
    {items : List Document} (hitem : ∀ d ∈ items, ∀ a, item d = .ok a → P a) :
    ∀ {i : Nat} {as : List α}, readEach item i items = .ok as → ∀ a ∈ as, P a := by
  induction items with
  | nil =>
    intro i as h
    cases h
    simp
  | cons d items ih =>
    intro i as h
    rw [readEach] at h
    obtain ⟨a, ha, h⟩ := bind_eq_ok.mp h
    obtain ⟨as', has, h⟩ := bind_eq_ok.mp h
    cases h
    obtain ⟨hd, hitems⟩ := List.forall_mem_cons.mp hitem
    exact List.forall_mem_cons.mpr ⟨hd a (inside_eq_ok.mp ha), ih hitems has⟩

theorem readList_forall {α : Type} {P : α → Prop} {item : Document → Read α} {d : Document}
    (hd : d.InWords) (hitem : ∀ d a, InWords d → item d = .ok a → P a) {as : List α}
    (h : d.readList item = .ok as) : ∀ a ∈ as, P a := by
  cases hd with
  | list each => exact readEach_forall (fun d hd a => hitem d a (each d hd)) h
  | _ => cases h

namespace Shape
variable {σ : Type} {shape : Shape σ} {P : σ → Prop}
  (hput : ∀ {s t : σ} {field : String} {d : Document}, P s → d.InWords →
    shape.put s field d = .ok t → P t)
include hput

theorem readMembers_keeps {members : List (String × Document)} (hd : ∀ m ∈ members, m.2.InWords) :
    ∀ {s t : σ}, P s → shape.readMembers s members = .ok t → P t := by
  induction members with
  | nil =>
    intro s t hs h
    cases h
    exact hs
  | cons m members ih =>
    intro s t hs h
    obtain ⟨u, hu, h⟩ := bind_eq_ok.mp h
    obtain ⟨hm, hmembers⟩ := List.forall_mem_cons.mp hd
    exact ih hmembers (hput hs hm (inside_eq_ok.mp hu)) h

theorem readItems_keeps {items : List (String × Document)} (hd : ∀ m ∈ items, m.2.InWords) :
    ∀ {s t : σ} {i : Nat}, P s → shape.readItems s i items = .ok t → P t := by
  induction items with
  | nil =>
    intro s t i hs h
    cases h
    exact hs
  | cons m items ih =>
    intro s t i hs h
    obtain ⟨u, hu, h⟩ := bind_eq_ok.mp h
    obtain ⟨hm, hitems⟩ := List.forall_mem_cons.mp hd
    exact ih hitems (hput hs hm (inside_eq_ok.mp hu)) h

/-- What every field keeps holds of a record that is read. -/
theorem read_keeps (hstart : P shape.start) {mode : Mode} {d : Document} (hd : d.InWords) {s : σ}
    (h : shape.read mode d = .ok s) : P s := by
  cases hd with
  | table each =>
    exact readMembers_keeps hput (fun m hm => each m (SortedMap.mem_of_mem_ofList hm)) hstart h
  | list each =>
    obtain ⟨t, ht, h⟩ := bind_eq_ok.mp h
    obtain ⟨-, -, h⟩ := bind_eq_ok.mp h
    cases h
    refine readItems_keeps hput (fun m hm => ?_) hstart ht
    exact each m.2 (List.of_mem_zip hm).2
  | _ => cases h

end Shape

theorem readSigned_fits {d : Document} (hd : d.InWords) {n : Int} (h : d.readSigned = .ok n) :
    Word.fitsSigned n = true := by
  cases hd with
  | signed fits =>
    cases h
    exact fits
  | unsigned fits =>
    rw [readSigned] at h
    split at h
    · cases h
      exact Word.fitsSigned_iff.mpr ⟨by omega, by omega⟩
    · cases h
  | _ => cases h

theorem readUnsigned_lt {d : Document} (hd : d.InWords) {n : Nat} (h : d.readUnsigned = .ok n) :
    n < Word.unsignedLimit := by
  cases hd with
  | @signed m fits =>
    have hlimit : (Word.signedLimit : Int) < Word.unsignedLimit := by decide
    obtain ⟨-, hhigh⟩ := Word.fitsSigned_iff.mp fits
    rw [readUnsigned] at h
    split at h
    · cases h
      omega
    · cases h
  | unsigned fits =>
    cases h
    exact fits
  | _ => cases h

theorem readCapacity_isWritten {d : Document} (hd : d.InWords) {c : Capacity}
    (h : d.readCapacity = .ok c) : c.IsWritten := by
  unfold readCapacity at h
  split at h
  · cases h
  · rename_i n hn
    obtain ⟨-, hhigh⟩ := Word.fitsSigned_iff.mp (readSigned_fits hd hn)
    unfold Capacity.ofInt at h
    split at h
    · rename_i heq
      split at heq
      · cases heq
        cases h
        trivial
      · split at heq
        · cases heq
          cases h
          show n.toNat ≤ Word.signedLimit - 1
          omega
        · cases heq
    · cases h

theorem readSimulated_isWritten {mode : Mode} {d : Document} (hd : d.InWords)
    {s : SimulatedSettings} (h : readSimulated mode d = .ok s) : s.capacity.IsWritten := by
  obtain ⟨⟨name, t⟩, ht, h⟩ := bind_eq_ok.mp h
  obtain ⟨name, -, h⟩ := bind_eq_ok.mp h
  cases h
  refine Shape.read_keeps (P := fun p => p.2.capacity.IsWritten) ?_ Capacity.exclusive_isWritten
    hd ht
  intro p q field d hp hd h
  simp only [simulatedShape] at h
  split at h
  · obtain ⟨name, -, h⟩ := bind_eq_ok.mp h
    cases h
    exact hp
  · obtain ⟨c, hc, h⟩ := bind_eq_ok.mp h
    cases h
    exact readCapacity_isWritten hd hc
  · obtain ⟨devices, -, h⟩ := bind_eq_ok.mp h
    cases h
    exact hp
  · cases h
    exact hp

theorem readSerial_isWritten {mode : Mode} {d : Document} (hd : d.InWords) {s : SerialSettings}
    (h : readSerial mode d = .ok s) : s.capacity.IsWritten := by
  refine Shape.read_keeps (P := fun s => s.capacity.IsWritten) ?_ Capacity.exclusive_isWritten hd h
  intro s t field d hs hd h
  simp only [serialShape] at h
  split at h
  · obtain ⟨name, -, h⟩ := bind_eq_ok.mp h
    cases h
    exact hs
  · obtain ⟨directory, -, h⟩ := bind_eq_ok.mp h
    cases h
    exact hs
  · obtain ⟨c, hc, h⟩ := bind_eq_ok.mp h
    cases h
    exact readCapacity_isWritten hd hc
  · cases h
    exact hs

theorem readContent_isWritten {mode : Mode} {kind : Kind} {d : Document} (hd : d.InWords)
    {s : ClassSettings} (h : readContent mode kind d = .ok s) : s.capacity.IsWritten := by
  have h := mapError_eq_ok.mp h
  cases kind with
  | simulated =>
    obtain ⟨s, hs, rfl⟩ := map_eq_ok.mp h
    exact readSimulated_isWritten hd hs
  | serial =>
    obtain ⟨s, hs, rfl⟩ := map_eq_ok.mp h
    exact readSerial_isWritten hd hs

theorem readClass_isWritten {mode : Mode} {d : Document} (hd : d.InWords) {s : ClassSettings}
    (h : readClass mode d = .ok s) : s.capacity.IsWritten := by
  cases hd with
  | @table members each =>
    rw [readClass] at h
    split at h
    · cases h
    · obtain ⟨kind, -, h⟩ := bind_eq_ok.mp h
      exact readContent_isWritten (.table fun m hm => each m (List.mem_filter.mp hm).1) h
  | @list items each =>
    cases items with
    | nil => cases h
    | cons tag rest =>
      obtain ⟨kind, -, h⟩ := bind_eq_ok.mp h
      exact readContent_isWritten (.list (List.forall_mem_cons.mp each).2) h
  | _ => cases h

theorem read_brokerShape_lt {mode : Mode} {d : Document} (hd : d.InWords) {s : BrokerSettings}
    (h : (brokerShape mode).read mode d = .ok s) : s.rescanInterval < Word.unsignedLimit := by
  refine Shape.read_keeps (P := fun s => s.rescanInterval < Word.unsignedLimit) ?_ ?_ hd h
  · intro s t field d hs hd h
    simp only [brokerShape] at h
    split at h
    · obtain ⟨n, hn, h⟩ := bind_eq_ok.mp h
      cases h
      exact readUnsigned_lt hd hn
    · obtain ⟨allow, -, h⟩ := bind_eq_ok.mp h
      cases h
      exact hs
    · obtain ⟨deny, -, h⟩ := bind_eq_ok.mp h
      cases h
      exact hs
    · cases h
      exact hs
  · show 5 < Word.unsignedLimit
    decide

theorem readSettings_writable {mode : Mode} {d : Document} (hd : d.InWords) {s : Settings}
    (h : readSettings mode d = .ok s) : s.Writable := by
  refine Shape.read_keeps (P := Settings.Writable) ?_ Settings.default_writable hd h
  intro s t field d hs hd h
  simp only [settingsShape] at h
  split at h
  · obtain ⟨application, -, h⟩ := bind_eq_ok.mp h
    cases h
    exact ⟨hs.interval, hs.capacities⟩
  · obtain ⟨broker, hbroker, h⟩ := bind_eq_ok.mp h
    cases h
    exact ⟨read_brokerShape_lt hd hbroker, hs.capacities⟩
  · obtain ⟨classes, hclasses, h⟩ := bind_eq_ok.mp h
    cases h
    exact ⟨hs.interval, readList_forall hd (fun d c hd hc => readClass_isWritten hd hc) hclasses⟩
  · cases h
    exact hs

end Document

namespace Settings

/-- The numbers in settings that have been loaded can be written down. -/
theorem load_writable {file : Option String} {environment : List (String × String)} {s : Settings}
    (h : load file environment = .ok s) : s.Writable := by
  unfold load at h
  split at h
  · cases h
  · rename_i d hd
    split at h
    · cases h
      exact Document.readSettings_writable
        (Document.merge_inWords (fileDocument?_inWords hd) (overrides_inWords environment)) ‹_›
    · cases h

end Settings

end LeaseBroker
