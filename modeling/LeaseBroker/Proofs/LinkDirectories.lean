import LeaseBroker.Proofs.LeaseOutcomes
import LeaseBroker.Proofs.LinkNames
import LeaseBroker.Proofs.Rebuilding
import Mathlib.Data.List.Dedup

/-!
# Which adapters of a directory are seen

Adapters go by their identifiers, so of several links with the same one only the link that is listed
last counts. A class reports as many identifiers as its directory has readable links exactly if no
two links share one, provided that the directory can be listed. What is reported and leads to a
device can be leased after a rescan, whatever becomes of the other links.
-/

set_option autoImplicit false

namespace LeaseBroker

namespace LinkDirectory
variable {d : LinkDirectory} {id : DeviceId} {a : Adapter}

/-- The last readable link with an identifier. -/
def shown (d : LinkDirectory) (id : DeviceId) : Option Adapter :=
  d.readable.reverse.find? (·.name.deviceId == id)

theorem get?_adapters (d : LinkDirectory) (id : DeviceId) : d.adapters.get? id = d.shown id := by
  rw [adapters, SortedMap.get?_ofList, ← List.map_reverse, List.find?_map, Option.map_map]
  exact Option.map_id'

theorem wellFormed_of_mem_readable (h : a ∈ d.readable) : a.name.WellFormed := by
  obtain ⟨link, _, hread⟩ := List.mem_filterMap.mp h
  obtain ⟨name, hname, rfl⟩ := Option.map_eq_some_iff.mp hread
  exact (LinkName.parse?_eq_some_iff.mp hname).1

/-- A link counts unless a later one has the same identifier. -/
theorem shown_of_last {earlier later : List Adapter} (hd : d.readable = earlier ++ a :: later)
    (hlast : ∀ b ∈ later, ¬ a.name.Shares b.name) : d.shown a.name.deviceId = some a := by
  have ha : a ∈ d.readable := hd ▸ List.mem_append_right earlier List.mem_cons_self
  have hlater : later.reverse.find? (·.name.deviceId == a.name.deviceId) = none := by
    rw [List.find?_eq_none]
    intro b hb heq
    have hb' : b ∈ later := List.mem_reverse.mp hb
    have hmem : b ∈ d.readable :=
      hd ▸ List.mem_append_right earlier (List.mem_cons_of_mem a hb')
    apply hlast b hb'
    apply ((wellFormed_of_mem_readable ha).deviceId_eq_iff (wellFormed_of_mem_readable hmem)).mp
    exact (eq_of_beq heq).symm
  rw [shown, hd, List.reverse_append, List.reverse_cons, List.append_assoc, List.find?_append,
    hlater]
  simp

theorem mem_keys_adapters : id ∈ d.adapters.keys ↔ ∃ a ∈ d.readable, a.name.deviceId = id := by
  simp [SortedMap.mem_keys_iff, get?_adapters, ← Option.isSome_iff_exists, shown]

theorem nodup_deviceId_iff : (d.readable.map (·.name.deviceId)).Nodup ↔
    d.readable.Pairwise fun a b => ¬ a.name.Shares b.name := by
  rw [List.Nodup, List.pairwise_map]
  apply List.Pairwise.iff_of_mem
  intro a b ha hb
  rw [Ne, (wellFormed_of_mem_readable ha).deviceId_eq_iff (wellFormed_of_mem_readable hb)]

theorem length_keys_adapters_iff : d.adapters.keys.length = d.readable.length ↔
    d.readable.Pairwise fun a b => ¬ a.name.Shares b.name := by
  -- The keys are the identifiers without their repetitions, in another order.
  have hperm : d.adapters.keys.Perm (d.readable.map (·.name.deviceId)).dedup := by
    rw [List.perm_ext_iff_of_nodup (SortedMap.keys_nodup _) (List.nodup_dedup _)]
    intro id
    rw [mem_keys_adapters, List.mem_dedup, List.mem_map]
  rw [← nodup_deviceId_iff, ← List.dedup_eq_self, ← (List.dedup_sublist _).length_eq,
    List.length_map, hperm.length_eq]

end LinkDirectory

namespace SerialFamily
variable {s : SerialFamily} {d : LinkDirectory} (hd : s.directory = some d)
include hd

theorem listing_of_listable (hlistable : d.failure = none) : s.listing = .ok d.adapters := by
  simp only [listing, hd, hlistable]

theorem listing_of_failing {error : String} (hfailure : d.failure = some error) :
    s.listing = .error (.unlisted error) := by
  simp only [listing, hd, hfailure]

theorem rescan_of_listable (hlistable : d.failure = none) : s.rescan = .ok d.adapters.keys := by
  rw [rescan, listing_of_listable hd hlistable]
  rfl

theorem rescan_of_failing {error : String} (hfailure : d.failure = some error) :
    s.rescan = .error (.unlisted error) := by
  rw [rescan, listing_of_failing hd hfailure]
  rfl

end SerialFamily

namespace DeviceClass
variable {k : DeviceClass} {w w' : Bench} {d : LinkDirectory} {id : DeviceId} {a : Adapter}
  {node : String}

/-- Whether a class looks for links in a directory. -/
def Watches (k : DeviceClass) (w : Bench) (d : LinkDirectory) : Prop :=
  ∃ slot path, k.family = .serial slot path ∧ w.directories.get? path = some d

namespace Watches

theorem alike (h : k.Watches w d) (halike : Bench.Alike w w') : k.Watches w' d := by
  obtain ⟨slot, path, hfamily, hd⟩ := h
  exact ⟨slot, path, hfamily, by rw [halike.directories, hd]⟩

theorem labels (h : k.Watches w d) : k.Labels w := by
  obtain ⟨slot, path, hfamily, _⟩ := h
  exact labels_of_serial hfamily

theorem report (h : k.Watches w d) (hlistable : d.failure = none) :
    (Bench.rescan k w).answer = .ok d.adapters.keys := by
  obtain ⟨slot, path, hfamily, hd⟩ := h
  have hrescan : (w.serialAt slot path).rescan = .ok d.adapters.keys :=
    SerialFamily.rescan_of_listable hd hlistable
  simp only [Bench.rescan, hfamily, hrescan, Bench.serialAnswer]

theorem report_of_failing (h : k.Watches w d) {error : String} (hfailure : d.failure = some error) :
    (Bench.rescan k w).answer = .error ⟨["IO error: " ++ error, error]⟩ := by
  obtain ⟨slot, path, hfamily, hd⟩ := h
  have hrescan : (w.serialAt slot path).rescan = .error (.unlisted error) :=
    SerialFamily.rescan_of_failing hd hfailure
  simp only [Bench.rescan, hfamily, hrescan, Bench.serialAnswer, SerialFault.unlisted,
    SerialFault.fault]

theorem given (h : k.Watches w d) (hlistable : d.failure = none) (ha : d.shown id = some a)
    (hnode : a.link.target = .node node) (hfree : (w.adoptedAt k.place).contains id = false) :
    Bench.classes.given k id w = some (SerialFamily.infoOf id a node) := by
  obtain ⟨slot, path, hfamily, hd⟩ := h
  obtain ⟨name, capacity, family⟩ := k
  obtain rfl : family = .serial slot path := hfamily
  have hadapter : (w.serialAt slot path).adapters.get? id = some a := by
    have hlisting : (w.serialAt slot path).listing = .ok d.adapters :=
      SerialFamily.listing_of_listable hd hlistable
    rw [SerialFamily.adapters, hlisting]
    exact (d.get?_adapters id).trans ha
  have hanswer := congrArg Bench.serialAnswer
    (SerialFamily.adopt_of_resolvable hadapter hnode hfree)
  change (Bench.serialAnswer ((w.serialAt slot path).adopt id).1).toOption.map (·.2) = _
  rw [hanswer]
  rfl

end Watches

end DeviceClass

namespace Broker
variable {b : Broker Bench DeviceClass Handle} {k : DeviceClass} {d : LinkDirectory}
  {id : DeviceId} {a : Adapter} {node : String}

/-- A broker with one class, which looks for links, registers every link that counts, leads to a
device and is permitted, whether or not the other links can be adopted. -/
theorem rescan_registers_shown (hclasses : b.classes = [k]) (hwatches : k.Watches b.world d)
    (hlistable : d.failure = none) (hentries : b.entries = ∅) (hinfos : b.infos = ∅)
    (hledger : b.ledger = {}) (hfresh : b.world.adoptedAt k.place = ∅) (ha : d.shown id = some a)
    (hnode : a.link.target = .node node) (permitted : b.access.permits id = true) :
    ∃ handle, (b.rescan Bench.classes).2.entries.get? id =
      some { handle, info := SerialFamily.infoOf id a node, holder := k } := by
  have hacc := Accounted.of_blank hentries hledger
  have hlabel : b.AllLabel := by
    intro j hj
    rw [hclasses, List.mem_singleton] at hj
    exact hj ▸ hwatches.labels
  have hexpected : b.Expected Bench.classes id := by
    refine ⟨⟨d.adapters.keys, ?_, ?_⟩, permitted⟩
    · rw [hclasses]
      exact List.mem_singleton.mpr (hwatches.report hlistable).symm
    · exact SortedMap.mem_keys_iff.mpr ⟨a, (d.get?_adapters id).trans ha⟩
  have hnew := not_mem_devices_of_blank hentries id
  obtain ⟨j, hasks⟩ := asks_of_expected hnew hexpected
  obtain rfl : j = k := by
    have howner := (reported_of_owner hasks.owned).1
    rwa [hclasses, List.mem_singleton] at howner
  have hreached := hlabel.undisturbed hinfos id
  have hgiven : Bench.classes.given j id (b.reaching Bench.classes id).2.world =
      some (SerialFamily.infoOf id a node) := by
    apply (hwatches.alike hreached.alike).given hlistable ha hnode
    rw [hreached.adopted, hfresh]
    rfl
  have hfound : id ∈ (b.rescan Bench.classes).1.found :=
    ((hacc.reconciled Bench.classes).seen.mpr ⟨hnew, hexpected⟩).resolve_right
      (hlabel.not_mem_failed hinfos hacc hasks rfl hgiven)
  obtain ⟨handle, info, hinfo, hentry⟩ := hacc.found_entry hasks hfound
  rw [hgiven] at hinfo
  cases hinfo
  exact ⟨handle, hentry⟩

end Broker

namespace Pool

theorem exists_tryAcquire {W K H : Type} {cls : DeviceClasses W K H} {p : Pool W K H}
    {id : DeviceId} {e : Entry K H} (he : p.broker.entries.get? id = some e)
    (hfree : p.broker.isFree cls e = true) (acquirer : Acquirer) :
    ∃ pick, (p.step cls (.tryAcquire {} acquirer pick)).1 = .leased id := by
  have hmatch : id ∈ p.broker.matchingFree cls {} :=
    (Broker.mem_matchingFree_iff _ _).mpr ⟨e, he, rfl, rfl, hfree⟩
  obtain ⟨pick, hpick⟩ := Broker.exists_pick hmatch acquirer p.broker.now
  exact ⟨pick, congrArg (Answer.ofResult .leased) hpick⟩

variable {k : DeviceClass} {w : Bench} {d : LinkDirectory}

/-- A new pool that knows one class and has rescanned once. -/
def ofClass (w : Bench) (access : AccessLists) (k : DeviceClass) :
    Pool Bench DeviceClass Handle :=
  run Bench.classes ⟨.start w access, []⟩ [.register k, .rescan]

/-- A class that looks for links in a directory that can be listed reports what their names give as
identifiers, each one once; if the directory cannot be listed, the class reports the error. The
identifiers are as many as the links exactly if no two links share one, and of those that do the
last one counts. In a new pool each link that counts and leads to a device is registered with what
it says and can be leased. -/
theorem adapters_seen_unless_shared (h : k.Watches w d) :
    (d.failure = none →
      ∃ ids, (Bench.rescan k w).answer = .ok ids ∧ ids.Pairwise (· < ·) ∧
        (∀ id, id ∈ ids ↔ ∃ a ∈ d.readable, a.name.deviceId = id) ∧
        (ids.length = d.readable.length ↔
          d.readable.Pairwise fun a b => ¬ a.name.Shares b.name)) ∧
    (∀ error, d.failure = some error →
      (Bench.rescan k w).answer = .error ⟨["IO error: " ++ error, error]⟩) ∧
    (∀ earlier a later, d.readable = earlier ++ a :: later →
      (∀ b ∈ later, ¬ a.name.Shares b.name) → d.shown a.name.deviceId = some a) ∧
    (d.failure = none → w.adoptedAt k.place = ∅ → k.capacity.admits 0 = true →
      ∀ access id a node,
      d.shown id = some a → a.link.target = .node node → access.permits id = true →
      (ofClass w access k).broker.info id = .ok (SerialFamily.infoOf id a node) ∧
      ∀ acquirer, ∃ pick, ((ofClass w access k).step Bench.classes
        (.tryAcquire {} acquirer pick)).1 = .leased id) := by
  refine ⟨?_, fun _ => h.report_of_failing, fun _ _ _ => LinkDirectory.shown_of_last, ?_⟩
  · intro hlistable
    exact ⟨_, h.report hlistable, SortedMap.keys_lt _, fun id => LinkDirectory.mem_keys_adapters,
      LinkDirectory.length_keys_adapters_iff⟩
  · intro hlistable hfresh hcapacity access id a node ha hnode permitted
    obtain ⟨handle, hentry⟩ := Broker.rescan_registers_shown
      (b := (Broker.start w access).register Bench.classes k) rfl h hlistable rfl rfl rfl hfresh ha
      hnode permitted
    have hregistered : (ofClass w access k).broker.entries.get? id =
        some { handle, info := SerialFamily.infoOf id a node, holder := k } := hentry
    refine ⟨?_, exists_tryAcquire hregistered hcapacity⟩
    rw [Broker.info, Broker.entry, hregistered]
    rfl

end Pool

def serialClass : DeviceClass := ⟨"serial", .exclusive, .serial 0 "by-id"⟩

def serialBench (d : LinkDirectory) : Bench where
  directories := SortedMap.insert ∅ "by-id" d

theorem serialClass_watches (d : LinkDirectory) : serialClass.Watches (serialBench d) d :=
  ⟨0, "by-id", rfl, SortedMap.get?_insert_self _ _ _⟩

/-- The two ports of one adapter. -/
def dualAdapter : LinkDirectory where
  links := [⟨"usb-FTDI_Dual_RS232_FT2ABCD-if00-port0", .node "/dev/ttyUSB0"⟩,
    ⟨"usb-FTDI_Dual_RS232_FT2ABCD-if01-port0", .node "/dev/ttyUSB1"⟩]

/-- Adapters of two vendors that came with the same serial number. -/
def twinAdapters : LinkDirectory where
  links := [⟨"usb-Silicon_Labs_CP2102_0001-if00-port0", .node "/dev/ttyUSB0"⟩,
    ⟨"usb-QinHeng_CH343_0001-if00-port0", .node "/dev/ttyUSB1"⟩]

namespace Pool

theorem adapters_seen_unless_shared_dual :
    (∃ ids, (Bench.rescan serialClass (serialBench dualAdapter)).answer = .ok ids ∧
      ids.length = dualAdapter.readable.length) ∧
    ∃ pick, ((ofClass (serialBench dualAdapter) {} serialClass).step Bench.classes
      (.tryAcquire {} "ann" pick)).1 = .leased "FT2ABCD-if01-port0" := by
  obtain ⟨hreport, _, hshown, hleased⟩ :=
    adapters_seen_unless_shared (serialClass_watches dualAdapter)
  obtain ⟨ids, hids, _, _, hlength⟩ := hreport rfl
  refine ⟨⟨ids, hids, hlength.mpr ?_⟩, ?_⟩
  · decide +kernel
  · have hsecond := hshown [⟨⟨"FTDI", "Dual_RS232", "FT2ABCD", "00", "0"⟩, dualAdapter.links[0]⟩]
      ⟨⟨"FTDI", "Dual_RS232", "FT2ABCD", "01", "0"⟩, dualAdapter.links[1]⟩ [] ?_ nofun
    · exact (hleased rfl rfl rfl {} _ _ _ hsecond rfl rfl).2 "ann"
    · rfl

/-- Two links that can be read and come from different vendors may give one identifier. -/
theorem twin_adapter_hidden :
    twinAdapters.readable.map (·.name.vendor) = ["Silicon", "QinHeng"] ∧
    (Bench.rescan serialClass (serialBench twinAdapters)).answer = .ok ["0001"] ∧
    ¬ ∀ (k : DeviceClass) (w : Bench) (d : LinkDirectory), k.Watches w d → d.failure = none →
      ∃ ids, (Bench.rescan k w).answer = .ok ids ∧ ids.length = d.readable.length := by
  have hvendors : twinAdapters.readable.map (·.name.vendor) = ["Silicon", "QinHeng"] := by
    decide +kernel
  have hids : (Bench.rescan serialClass (serialBench twinAdapters)).answer = .ok ["0001"] := by
    rw [(serialClass_watches twinAdapters).report rfl]
    exact congrArg Except.ok (by decide +kernel)
  refine ⟨hvendors, hids, ?_⟩
  intro hall
  obtain ⟨ids, hreport, hlength⟩ := hall _ _ _ (serialClass_watches twinAdapters) rfl
  rw [hids] at hreport
  cases hreport
  have hreadable := congrArg List.length hvendors
  rw [List.length_map] at hreadable
  rw [hreadable] at hlength
  cases hlength

end Pool

end LeaseBroker
