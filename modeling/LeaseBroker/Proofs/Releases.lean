import LeaseBroker.Proofs.Isolation
import LeaseBroker.Proofs.Removal
import Mathlib.Data.List.DropRight

/-!
# Releases commute

Ending the newest lease of an acquirer on a device shortens one stack of the ledger and one count.
What is left after several releases therefore depends on how many there were of each kind and not on
their order. Releasing everything that an acquirer has is to release what it has one by one.
-/

set_option autoImplicit false

namespace LeaseBroker

/-! ### Holdings as lists -/

namespace Ledger
variable {ledger : Ledger}

/-- Whether a ledger has as many leases as a list names, of each acquirer on each device. -/
def Covers (ledger : Ledger) (leases : List Holding) : Prop :=
  ∀ lease, leases.count lease ≤ ledger.count lease.acquirer lease.device

theorem covers_iff {leases : List Holding} : ledger.Covers leases ↔
    ∀ lease ∈ leases, leases.count lease ≤ ledger.count lease.acquirer lease.device := by
  constructor
  · intro h lease _
    exact h lease
  · intro h lease
    by_cases hmem : lease ∈ leases
    · exact h lease hmem
    · rw [List.count_eq_zero_of_not_mem hmem]
      exact Nat.zero_le _

end Ledger

def leasesOf (a : Acquirer) (ids : List DeviceId) : List Holding := ids.map (⟨a, ·⟩)

section Leases
variable {a : Acquirer} {ids : List DeviceId}

theorem device_leasesOf : (leasesOf a ids).map (·.device) = ids := by
  simp [leasesOf, Function.comp_def]

theorem count_leasesOf (x : Acquirer) (id : DeviceId) :
    (leasesOf a ids).count ⟨x, id⟩ = if x = a then ids.count id else 0 := by
  split
  · rename_i h
    rw [h, leasesOf, List.count_map_of_injective _ _ fun _ _ heq => congrArg Holding.device heq]
  · rename_i h
    apply List.count_eq_zero_of_not_mem
    intro hmem
    obtain ⟨_, _, heq⟩ := List.mem_map.mp hmem
    exact h (congrArg Holding.acquirer heq).symm

end Leases

namespace Broker
variable {W K H : Type} {b c d : Broker W K H} {a : Acquirer} {id : DeviceId}
  {leases order : List Holding}

/-! ### What several releases come to -/

/-- Whether the newest leases that a list names have ended and nothing else has changed. -/
structure Released (b : Broker W K H) (leases : List Holding) (c : Broker W K H) : Prop where
  stack : ∀ a id, c.ledger.since a id = (b.ledger.since a id).rdrop (leases.count ⟨a, id⟩)
  entries : ∀ {id e}, b.entries.get? id = some e → ∃ n,
    e.leases = n + (leases.map (·.device)).count id ∧
    c.entries.get? id = some { e with leases := n }
  unknown : ∀ {id}, b.entries.get? id = none → c.entries.get? id = none
  rest : c.toRegistry = { b.toRegistry with entries := c.entries, ledger := c.ledger }
  world : c.world = b.world
  now : c.now = b.now

theorem rdrop_rdrop {α : Type} (xs : List α) (m n : Nat) :
    (xs.rdrop m).rdrop n = xs.rdrop (m + n) := by
  simp only [List.rdrop_eq_reverse_drop_reverse, List.reverse_reverse, List.drop_drop]

namespace Released

theorem nil (b : Broker W K H) : Released b [] b where
  stack := fun _ _ => (List.rdrop_zero _).symm
  entries := fun {_ e} he => ⟨e.leases, rfl, he⟩
  unknown := id
  rest := rfl
  world := rfl
  now := rfl

/-- A release takes the newest lease from its stack and one from the count of its device. -/
theorem single {e : Entry K H} {since : Moment} {ledger : Ledger}
    (he : b.entries.get? id = some e) (leased : e.leases ≠ 0)
    (hp : b.ledger.pop a id = (some since, ledger)) :
    Released b [⟨a, id⟩] (b.unleased id e a since ledger) := by
  obtain ⟨older, hsince, rfl⟩ := Ledger.pop_eq_some hp
  have hentry (i : DeviceId) : (b.unleased id e a since (b.ledger.setStack a id older)).entries.get?
      i = if i = id then some { e with leases := e.leases - 1 } else b.entries.get? i :=
    SortedMap.get?_insert _ _ _ _
  refine ⟨?_, ?_, ?_, rfl, rfl, rfl⟩
  · intro x i
    refine (b.ledger.since_setStack a x id i older).trans ?_
    split
    · rename_i hsame
      rw [hsame.1, hsame.2, List.count_singleton_self, hsince, List.rdrop_concat_succ,
        List.rdrop_zero]
    · rename_i hother
      rw [List.count_eq_zero_of_not_mem, List.rdrop_zero]
      intro hmem
      cases List.mem_singleton.mp hmem
      exact hother ⟨rfl, rfl⟩
  · intro i f hf
    rw [hentry]
    split
    · rename_i hsame
      rw [hsame, he] at hf
      cases hf
      refine ⟨e.leases - 1, ?_, rfl⟩
      rw [hsame, List.map_singleton, List.count_singleton_self]
      omega
    · rename_i hother
      refine ⟨f.leases, ?_, hf⟩
      rw [List.map_singleton, Nat.left_eq_add]
      apply List.count_eq_zero_of_not_mem
      intro hmem
      exact hother (List.mem_singleton.mp hmem)
  · intro i hnone
    rw [hentry, if_neg, hnone]
    rintro rfl
    rw [he] at hnone
    cases hnone

theorem trans (hbc : Released b leases c) (hcd : Released c order d) :
    Released b (leases ++ order) d where
  stack := by
    intro a id
    rw [hcd.stack, hbc.stack, List.count_append, rdrop_rdrop]
  entries := by
    intro id e he
    obtain ⟨n, hn, hc⟩ := hbc.entries he
    obtain ⟨m, hm, hd⟩ := hcd.entries hc
    refine ⟨m, ?_, hd⟩
    rw [List.map_append, List.count_append]
    simp only at hm
    omega
  unknown := fun hnone => hcd.unknown (hbc.unknown hnone)
  rest := by
    rw [hcd.rest, hbc.rest]
  world := hcd.world.trans hbc.world
  now := hcd.now.trans hbc.now

theorem count_add (h : Released b leases c) (hcovered : b.ledger.Covers leases) (a : Acquirer)
    (id : DeviceId) : c.ledger.count a id + leases.count ⟨a, id⟩ = b.ledger.count a id := by
  have hle := hcovered ⟨a, id⟩
  rw [Ledger.count, h.stack, List.rdrop, List.length_take]
  simp only [Ledger.count] at hle ⊢
  omega

/-- What is left does not depend on the order of the releases. -/
theorem toRegistry_eq_of_perm (hc : Released b leases c) (hd : Released b order d)
    (hperm : order.Perm leases) (hcp : c.ledger.Pruned) (hdp : d.ledger.Pruned) :
    d.toRegistry = c.toRegistry := by
  have hentries : d.entries = c.entries := by
    apply SortedMap.ext_get?
    intro id
    cases he : b.entries.get? id with
    | none => rw [hc.unknown he, hd.unknown he]
    | some e =>
      obtain ⟨n, hn, hcid⟩ := hc.entries he
      obtain ⟨m, hm, hdid⟩ := hd.entries he
      rw [(hperm.map _).count_eq] at hm
      obtain rfl : m = n := by omega
      rw [hcid, hdid]
  have hledger : d.ledger = c.ledger := by
    apply hdp.ext hcp
    intro a id
    rw [hc.stack, hd.stack, hperm.count_eq]
  rw [hd.rest, hc.rest, hentries, hledger]

end Released

theorem Accounted.endLease_released (h : Accounted b.entries b.ledger)
    (acquirer : Option Acquirer) (hholder : (acquirer <|> b.ledger.holderOf? id) = some a)
    (hpos : 0 < b.ledger.count a id) :
    ∃ c, b.endLease id acquirer = (.ok a, c) ∧ Released b [⟨a, id⟩] c ∧
      Accounted c.entries c.ledger := by
  obtain ⟨e, he⟩ := h.registered hpos
  have hle := h.count_le he a
  obtain ⟨since, ledger, hp⟩ := Ledger.exists_pop_of_count_pos hpos
  exact ⟨_, endLease_of_popped he (by omega) hholder hp, .single he (by omega) hp,
    h.endLease he hp⟩

theorem Accounted.release_ok (h : Accounted b.entries b.ledger) (hpos : 0 < b.ledger.count a id) :
    ∃ c, b.release id a = (.ok (), c) ∧ Released b [⟨a, id⟩] c ∧ Accounted c.entries c.ledger := by
  obtain ⟨c, hend, hrest⟩ := h.endLease_released (some a) rfl hpos
  exact ⟨c, by simp only [release, hend], hrest⟩

theorem release_of_releaseEach {rest : List DeviceId}
    (h : b.releaseEach a (id :: rest) = (.ok (), d)) :
    ∃ c, b.release id a = (.ok (), c) ∧ c.releaseEach a rest = (.ok (), d) := by
  unfold releaseEach at h
  split at h
  · rename_i c hend
    exact ⟨c, by simp only [release, hend], h⟩
  · cases h

end Broker

namespace Pool
variable {W K H : Type} {cls : DeviceClasses W K H} {p : Pool W K H} {a : Acquirer}
  {leases : List Holding}

/-! ### Releasing one by one -/

def releaseEach (cls : DeviceClasses W K H) (p : Pool W K H) (leases : List Holding) :
    Pool W K H :=
  p.run cls (leases.map fun lease => .release lease.device lease.acquirer)

theorem Reachable.releaseEach (hp : Reachable cls p) (leases : List Holding) :
    Reachable cls (p.releaseEach cls leases) :=
  hp.run _

theorem step_release {id : DeviceId} {c : Broker W K H}
    (h : p.broker.release id a = (.ok (), c)) :
    (p.step cls (.release id a)).2 = ⟨c, p.notify.waiting⟩ :=
  congrArg Prod.snd (notifying_of_ok h)

theorem releaseEach_cons {lease : Holding} {c : Broker W K H}
    (h : p.broker.release lease.device lease.acquirer = (.ok (), c)) (rest : List Holding) :
    p.releaseEach cls (lease :: rest) =
      (⟨c, p.notify.waiting⟩ : Pool W K H).releaseEach cls rest := by
  simp only [releaseEach, run, List.map_cons, List.foldl_cons, step_release h]

theorem releaseEach_ok (hp : Reachable cls p) (hcovered : p.broker.ledger.Covers leases) :
    p.broker.Released leases (p.releaseEach cls leases).broker ∧
    ∀ earlier lease later, leases = earlier ++ lease :: later →
      ((p.releaseEach cls earlier).release lease.device lease.acquirer).1 = .ok () := by
  induction leases generalizing p with
  | nil =>
    refine ⟨.nil p.broker, ?_⟩
    intro earlier lease later hsplit
    exact absurd hsplit.symm (List.append_ne_nil_of_right_ne_nil _ (List.cons_ne_nil _ _))
  | cons lease rest ih =>
    have hfirst := hcovered lease
    rw [List.count_cons_self] at hfirst
    obtain ⟨c, hc, hreleased, _⟩ := hp.accounted.release_ok (Nat.lt_of_lt_of_le (Nat.succ_pos _)
      hfirst)
    have hreachable : Reachable cls ⟨c, p.notify.waiting⟩ := step_release hc ▸ hp.step _
    -- What is left of the list names no more leases than are left.
    have hsingle : p.broker.ledger.Covers [lease] := by
      intro other
      have hother := hcovered other
      rw [← List.singleton_append, List.count_append] at hother
      omega
    have hrest : c.ledger.Covers rest := by
      intro other
      have hother := hcovered other
      have hcount : c.ledger.count other.acquirer other.device + [lease].count other =
          p.broker.ledger.count other.acquirer other.device := hreleased.count_add hsingle _ _
      rw [← List.singleton_append, List.count_append] at hother
      omega
    obtain ⟨hafter, hall⟩ := ih hreachable hrest
    refine ⟨?_, ?_⟩
    · rw [releaseEach_cons hc]
      exact hreleased.trans hafter
    · intro earlier other later hsplit
      cases earlier with
      | nil =>
        cases hsplit
        exact congrArg Prod.fst (notifying_of_ok hc)
      | cons first earlier =>
        cases hsplit
        rw [releaseEach_cons hc]
        exact hall earlier other later rfl

/-! ### Releasing everything -/

theorem releaseEach_leasesOf {id : DeviceId} {rest : List DeviceId} {c : Broker W K H}
    (h : p.broker.releaseEach a (id :: rest) = (.ok (), c)) :
    p.releaseEach cls (leasesOf a (id :: rest)) = ⟨c, p.notify.waiting⟩ := by
  obtain ⟨b, hb, hrest⟩ := Broker.release_of_releaseEach h
  change p.releaseEach cls (⟨a, id⟩ :: leasesOf a rest) = _
  rw [releaseEach_cons hb]
  induction rest generalizing p id b with
  | nil =>
    cases hrest
    rfl
  | cons next rest ih =>
    obtain ⟨b', hb', hrest'⟩ := Broker.release_of_releaseEach hrest
    change (⟨b, p.notify.waiting⟩ : Pool W K H).releaseEach cls (⟨a, next⟩ :: leasesOf a rest) = _
    rw [releaseEach_cons hb', ih hrest b' hb' hrest', renotified]

theorem releaseAll_of_none (h : ∀ id, p.broker.ledger.count a id = 0) :
    p.releaseAll a = (.error (.unknownAcquirer a), p) := by
  refine notifying_of_error ?_
  simp only [Broker.releaseAll, Ledger.holdings_eq_nil_iff.mpr h]

theorem releaseAll_eq_releaseEach (hp : Reachable cls p) {id : DeviceId}
    (hpos : 0 < p.broker.ledger.count a id) :
    p.releaseAll a = (.ok (p.broker.ledger.holdings a),
      p.releaseEach cls (leasesOf a (p.broker.ledger.holdings a))) := by
  obtain ⟨c, hc⟩ := hp.accounted.releaseAll_ok a
  cases hholdings : p.broker.ledger.holdings a with
  | nil =>
    rw [Ledger.holdings_eq_nil_iff.mp hholdings id] at hpos
    exact absurd hpos (Nat.lt_irrefl 0)
  | cons first rest =>
    rw [hholdings] at hc
    rw [releaseEach_leasesOf hc]
    apply notifying_of_ok
    simp only [Broker.releaseAll, hholdings, hc]

theorem covers_leasesOf (ledger : Ledger) (a : Acquirer) :
    ledger.Covers (leasesOf a (ledger.holdings a)) := by
  rintro ⟨x, id⟩
  rw [count_leasesOf]
  split
  · rename_i h
    rw [h, Ledger.count_holdings]
  · exact Nat.zero_le _

/-- Leases that are outstanding can be released one by one in every order, none of the releases is
refused, and what is left is the same. All leases of an acquirer can be released at once exactly if
it has any. They are listed in ascending order of their devices, one item for each, and what is left
is what is left when they are released one by one. -/
theorem releases_commute (hp : Reachable cls p) :
    (∀ leases, p.broker.ledger.Covers leases →
      p.broker.Released leases (p.releaseEach cls leases).broker ∧
      ∀ order : List Holding, order.Perm leases →
        (∀ earlier lease later, order = earlier ++ lease :: later →
          ((p.releaseEach cls earlier).release lease.device lease.acquirer).1 = .ok ()) ∧
        (p.releaseEach cls order).broker.toRegistry =
          (p.releaseEach cls leases).broker.toRegistry) ∧
    (∀ a, (p.releaseAll a).1 = .error (.unknownAcquirer a) ↔
      ∀ id, p.broker.ledger.count a id = 0) ∧
    (∀ a id, 0 < p.broker.ledger.count a id → ∃ ids,
      p.releaseAll a = (.ok ids, p.releaseEach cls (leasesOf a ids)) ∧
      ids.Pairwise (· ≤ ·) ∧ (∀ id, ids.count id = p.broker.ledger.count a id) ∧
      a ∉ (p.releaseAll a).2.broker.ledger.acquirers ∧
      ∀ id n, p.broker.leaseCount id = .ok n → ∃ m,
        (p.releaseAll a).2.broker.leaseCount id = .ok m ∧
        n = m + p.broker.ledger.count a id) := by
  refine ⟨?_, ?_, ?_⟩
  · intro leases hcovered
    obtain ⟨hreleased, _⟩ := releaseEach_ok hp hcovered
    refine ⟨hreleased, ?_⟩
    intro order hperm
    have hordered : p.broker.ledger.Covers order := by
      intro lease
      rw [hperm.count_eq]
      exact hcovered lease
    obtain ⟨hreleased', hall⟩ := releaseEach_ok hp hordered
    exact ⟨hall, hreleased.toRegistry_eq_of_perm hreleased' hperm
      (hp.releaseEach leases).accounted.pruned (hp.releaseEach order).accounted.pruned⟩
  · intro a
    constructor
    · intro hrefused id
      apply Nat.eq_zero_of_not_pos
      intro hpos
      rw [releaseAll_eq_releaseEach hp hpos] at hrefused
      cases hrefused
    · intro hnone
      rw [releaseAll_of_none hnone]
  · intro a id hpos
    have hall := releaseAll_eq_releaseEach hp hpos
    have hcovered := covers_leasesOf p.broker.ledger a
    obtain ⟨hreleased, _⟩ := releaseEach_ok hp hcovered
    refine ⟨_, hall, p.broker.ledger.holdings_ascending a, p.broker.ledger.count_holdings a, ?_, ?_⟩
    · rw [hall, (hp.releaseEach _).accounted.pruned.mem_acquirers_iff]
      rintro ⟨i, hi⟩
      have hcount := hreleased.count_add hcovered a i
      rw [count_leasesOf, if_pos rfl, Ledger.count_holdings] at hcount
      omega
    · intro i n hn
      obtain ⟨e, he, rfl⟩ := Broker.leaseCount_eq_ok_iff.mp hn
      obtain ⟨m, hm, hafter⟩ := hreleased.entries he
      rw [device_leasesOf, Ledger.count_holdings] at hm
      rw [hall]
      exact ⟨m, Broker.leaseCount_eq_ok_iff.mpr ⟨_, hafter, rfl⟩, hm⟩

theorem releases_commute_shared :
    (sharedPool.releaseEach Bench.classes
        [⟨"bob", "B"⟩, ⟨"bob", "A"⟩, ⟨"ann", "A"⟩]).broker.toRegistry =
      (sharedPool.releaseEach Bench.classes
        [⟨"ann", "A"⟩, ⟨"bob", "B"⟩, ⟨"bob", "A"⟩]).broker.toRegistry ∧
    sharedPool.releaseAll "bob" =
      (.ok ["A", "B"], sharedPool.releaseEach Bench.classes (leasesOf "bob" ["A", "B"])) ∧
    (sharedPool.releaseAll "eve").1 = .error (.unknownAcquirer "eve") := by
  obtain ⟨hcommute, hnone, hall⟩ := releases_commute sharedPool_reachable
  refine ⟨?_, ?_, (hnone "eve").mpr ?_⟩
  · have hcovered : sharedPool.broker.ledger.Covers
        [⟨"ann", "A"⟩, ⟨"bob", "B"⟩, ⟨"bob", "A"⟩] :=
      Ledger.covers_iff.mpr (by decide +kernel)
    exact ((hcommute _ hcovered).2 _ (by decide)).2
  · obtain ⟨ids, hids, _⟩ := hall "bob" "A" (by decide +kernel)
    have hanswer : (sharedPool.releaseAll "bob").1 = .ok ["A", "B"] := by decide +kernel
    rw [hids] at hanswer
    cases hanswer
    exact hids
  · apply Ledger.holdings_eq_nil_iff.mp
    decide +kernel

end Pool

end LeaseBroker
