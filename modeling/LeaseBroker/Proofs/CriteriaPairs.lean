import LeaseBroker.Proofs.Conjunction
import Mathlib.Data.List.Basic
import Mathlib.Data.List.Perm.Basic

/-!
# Reading criteria from pairs

Whether a pair is accepted does not depend on the pairs before it: the first pair that fails by
itself decides how a list fails. A list that is accepted stands for the calls that its pairs write,
made in the same order. The order matters for repeated flags only.
-/

set_option autoImplicit false

namespace LeaseBroker.Criteria
variable {c d : Criteria} {p q : String × String} {pairs pairs' : List (String × String)}
  {r : Refusal} {key : String}

/-! ### Failures -/

theorem ofPairs_cons_eq_error : ofPairs (p :: pairs) = .error r ↔
    ofPairs [p] = .error r ∨ (∃ c, ofPairs [p] = .ok c) ∧ ofPairs pairs = .error r := by
  rw [← List.singleton_append, ofPairs_append]
  cases ofPairs [p] with
  | error r' => simp [Except.bind]
  | ok c =>
    cases ofPairs pairs with
    | error r' => simp [Except.bind, Except.map]
    | ok d => simp [Except.bind, Except.map]

theorem ofPairs_eq_error_iff : ofPairs pairs = .error r ↔
    ∃ front p back, pairs = front ++ p :: back ∧ (∀ q ∈ front, ∃ c, ofPairs [q] = .ok c) ∧
      ofPairs [p] = .error r := by
  induction pairs with
  | nil =>
    constructor
    · intro h
      cases h
    · rintro ⟨front, p, back, hsplit, _⟩
      exact absurd hsplit (by simp)
  | cons p rest ih =>
    rw [ofPairs_cons_eq_error, ih]
    constructor
    · rintro (hp | ⟨hp, front, q, back, rfl, hfront, hq⟩)
      · exact ⟨[], p, rest, rfl, nofun, hp⟩
      · exact ⟨p :: front, q, back, rfl, List.forall_mem_cons.mpr ⟨hp, hfront⟩, hq⟩
    · rintro ⟨front, q, back, hsplit, hfront, hq⟩
      cases front with
      | nil =>
        obtain ⟨rfl, _⟩ := List.cons.inj hsplit
        exact Or.inl hq
      | cons x front =>
        obtain ⟨rfl, rfl⟩ := List.cons.inj hsplit
        obtain ⟨hp, hfront⟩ := List.forall_mem_cons.mp hfront
        exact Or.inr ⟨hp, front, q, back, rfl, hfront, hq⟩

theorem exists_ofPairs_iff :
    (∃ c, ofPairs pairs = .ok c) ↔ ∀ p ∈ pairs, ∃ c, ofPairs [p] = .ok c := by
  induction pairs with
  | nil => exact iff_of_true ⟨{}, rfl⟩ nofun
  | cons p rest ih =>
    rw [List.forall_mem_cons, ← ih]
    constructor
    · rintro ⟨e, he⟩
      obtain ⟨c, d, hc, hd, _⟩ := ofPairs_cons_eq_ok.mp he
      exact ⟨⟨c, hc⟩, d, hd⟩
    · rintro ⟨⟨c, hc⟩, d, hd⟩
      exact ⟨_, ofPairs_cons_eq_ok.mpr ⟨c, d, hc, hd, rfl⟩⟩

theorem exists_error_iff_not_ok {result : Except Refusal Criteria} :
    (∃ r, result = .error r) ↔ ¬ ∃ c, result = .ok c := by
  cases result <;> simp

theorem exists_error_iff :
    (∃ r, ofPairs pairs = .error r) ↔ ∃ p ∈ pairs, ∃ r, ofPairs [p] = .error r := by
  rw [exists_error_iff_not_ok, exists_ofPairs_iff]
  simp only [exists_error_iff_not_ok, not_forall, exists_prop]

/-! ### The calls that pairs write -/

inductive Call where
  | pattern (field : Field) (text : String)
  | free (value : Bool)
  | busy (value : Bool)

def Call.make (c : Criteria) : Call → Except Refusal Criteria
  | pattern field text => c.withPattern field text
  | free value => .ok (c.withFree value)
  | busy value => .ok (c.withBusy value)

def build (calls : List Call) : Except Refusal Criteria := calls.foldlM Call.make {}

def flagWord : Bool → String
  | true => "true"
  | false => "false"

/-- Whether a pair of key and value writes a call. Flags are written in any case of letters. -/
inductive Writes : String × String → Call → Prop
  | pattern (field : Field) (text : String) : Writes (field.name, text) (.pattern field text)
  | free (value : Bool) (text : String) (h : text.toLower = flagWord value) :
    Writes ("free", text) (.free value)
  | busy (value : Bool) (text : String) (h : text.toLower = flagWord value) :
    Writes ("busy", text) (.busy value)

theorem flag_eq_ok_iff {text : String} {value : Bool} :
    flag key text = .ok value ↔ text.toLower = flagWord value := by
  unfold flag
  split
  · rename_i htrue
    rw [htrue]
    cases value <;> simp [flagWord]
  · rename_i hfalse
    rw [hfalse]
    cases value <;> simp [flagWord]
  · rename_i htrue hfalse
    cases value
    · simpa [flagWord] using hfalse
    · simpa [flagWord] using htrue

theorem field_eq_ok_iff {f : Field} : field key = .ok f ↔ key = f.name := by
  unfold field
  constructor
  · intro h
    split at h
    · rename_i hname
      cases h
      unfold Field.ofName? at hname
      split at hname <;> cases hname <;> rfl
    · cases h
  · rintro rfl
    rw [Field.ofName?_name]

theorem not_isFlag_name (f : Field) : ¬ IsFlag f.name := by
  cases f <;> decide

theorem Writes.withPair {call : Call} (h : Writes p call) (c : Criteria) :
    c.withPair p.1 p.2 = call.make c := by
  cases h with
  | pattern f text =>
    unfold Criteria.withPair
    split
    · rename_i hkey
      exact absurd (Or.inl hkey) (not_isFlag_name f)
    · rename_i hkey
      exact absurd (Or.inr hkey) (not_isFlag_name f)
    · rw [field_eq_ok_iff.mpr rfl]
      rfl
  | free value text h =>
    change (flag "free" text).map c.withFree = _
    rw [flag_eq_ok_iff.mpr h]
    rfl
  | busy value text h =>
    change (flag "busy" text).map c.withBusy = _
    rw [flag_eq_ok_iff.mpr h]
    rfl

theorem exists_writes (h : c.withPair p.1 p.2 = .ok d) : ∃ call, Writes p call := by
  obtain ⟨name, text⟩ := p
  unfold withPair at h
  split at h
  · rename_i hname
    obtain rfl : name = "free" := hname
    cases hflag : flag "free" text with
    | error r => simp [hflag, Except.map] at h
    | ok value => exact ⟨_, .free value text (flag_eq_ok_iff.mp hflag)⟩
  · rename_i hname
    obtain rfl : name = "busy" := hname
    cases hflag : flag "busy" text with
    | error r => simp [hflag, Except.map] at h
    | ok value => exact ⟨_, .busy value text (flag_eq_ok_iff.mp hflag)⟩
  · cases hfield : field name with
    | error r => simp [hfield, bind, Except.bind] at h
    | ok f =>
      obtain rfl : name = f.name := field_eq_ok_iff.mp hfield
      exact ⟨_, .pattern f text⟩

theorem foldlM_eq_of_writes {calls : List Call} (h : List.Forall₂ Writes pairs calls)
    (c : Criteria) :
    pairs.foldlM (fun c p => c.withPair p.1 p.2) c = calls.foldlM Call.make c := by
  induction h generalizing c with
  | nil => rfl
  | cons hp _ ih =>
    rw [List.foldlM_cons, List.foldlM_cons, hp.withPair c]
    exact congrArg _ (funext ih)

theorem ofPairs_eq_build {calls : List Call} (h : List.Forall₂ Writes pairs calls) :
    ofPairs pairs = build calls :=
  foldlM_eq_of_writes h {}

theorem exists_calls (h : ofPairs pairs = .ok c) : ∃ calls, List.Forall₂ Writes pairs calls := by
  induction pairs generalizing c with
  | nil => exact ⟨[], .nil⟩
  | cons p rest ih =>
    obtain ⟨d, e, hd, he, _⟩ := ofPairs_cons_eq_ok.mp h
    rw [ofPairs_singleton] at hd
    obtain ⟨call, hcall⟩ := exists_writes hd
    obtain ⟨calls, hcalls⟩ := ih he
    exact ⟨call :: calls, .cons hcall hcalls⟩

/-! ### Orders -/

def patternsOf (p : String × String) : List (Field × Pattern) :=
  match ofPairs [p] with
  | .ok c => c.patterns
  | .error _ => []

theorem patterns_eq (h : ofPairs pairs = .ok c) : c.patterns = pairs.flatMap patternsOf := by
  induction pairs generalizing c with
  | nil =>
    cases h
    rfl
  | cons p rest ih =>
    obtain ⟨d, e, hd, he, rfl⟩ := ofPairs_cons_eq_ok.mp h
    rw [List.flatMap_cons, ← ih he]
    simp [patternsOf, hd, followedBy]

theorem eq_of_count_le_one (h : (pairs.map (·.1)).count key ≤ 1) (hp : p ∈ pairs)
    (hq : q ∈ pairs) (hpkey : p.1 = key) (hqkey : q.1 = key) : p = q := by
  induction pairs with
  | nil => cases hp
  | cons x rest ih =>
    rw [List.map_cons, List.count_cons] at h
    have hrest (y : String × String) (hy : y ∈ rest) (hykey : y.1 = key) : x.1 ≠ key := by
      intro hx
      have hpos : 0 < (rest.map (·.1)).count key :=
        List.count_pos_iff.mpr (List.mem_map.mpr ⟨y, hy, hykey⟩)
      simp only [hx, beq_self_eq_true, if_true] at h
      omega
    rcases List.mem_cons.mp hp with hpx | hp'
    · rcases List.mem_cons.mp hq with hqx | hq'
      · exact hpx.trans hqx.symm
      · exact absurd (hpx ▸ hpkey) (hrest q hq' hqkey)
    · rcases List.mem_cons.mp hq with hqx | hq'
      · exact absurd (hqx ▸ hqkey) (hrest p hp' hpkey)
      · exact ih (by omega) hp' hq'

theorem asked_eq_of_perm (h : ofPairs pairs = .ok c) (h' : ofPairs pairs' = .ok d)
    (hperm : pairs.Perm pairs') (honce : (pairs.map (·.1)).count key ≤ 1) :
    d.asked key = c.asked key := by
  cases hv : c.asked key with
  | none =>
    apply Option.eq_none_iff_forall_ne_some.mpr
    intro w hw
    obtain ⟨q, hq, rfl, _⟩ := exists_of_asked h' hw
    exact asked_ne_none h (hperm.mem_iff.mpr hq) (isFlag_of_asked hw) hv
  | some v =>
    obtain ⟨p, hp, rfl, hpv⟩ := exists_of_asked h hv
    have hne := asked_ne_none h' (hperm.mem_iff.mp hp) (isFlag_of_asked hv)
    obtain ⟨w, hw⟩ := Option.ne_none_iff_exists'.mp hne
    obtain ⟨q, hq, hkey, hqw⟩ := exists_of_asked h' hw
    obtain rfl := eq_of_count_le_one honce hp (hperm.mem_iff.mpr hq) rfl hkey
    rw [hw, Except.ok.inj (hqw.symm.trans hpv)]

def SelectSame (c d : Criteria) : Prop :=
  (∀ info, c.matchesInfo info = d.matchesInfo info) ∧
  ∀ available, c.matchesAvailability available = d.matchesAvailability available

theorem selectSame_of_perm (h : ofPairs pairs = .ok c) (h' : ofPairs pairs' = .ok d)
    (hperm : pairs.Perm pairs') (hfree : (pairs.map (·.1)).count "free" ≤ 1)
    (hbusy : (pairs.map (·.1)).count "busy" ≤ 1) : d.SelectSame c := by
  have hpatterns : d.patterns.Perm c.patterns := by
    rw [patterns_eq h, patterns_eq h']
    exact hperm.symm.flatMap_right patternsOf
  refine ⟨fun info => hpatterns.all_eq, ?_⟩
  intro available
  have hfree' : d.free = c.free := asked_eq_of_perm h h' hperm hfree
  have hbusy' : d.busy = c.busy := asked_eq_of_perm h h' hperm hbusy
  rw [matchesAvailability, matchesAvailability, hfree', hbusy']

theorem isEmpty_followedBy (c d : Criteria) :
    (c.followedBy d).isEmpty = (c.isEmpty && d.isEmpty) := by
  obtain ⟨patterns, free, busy⟩ := c
  obtain ⟨patterns', free', busy'⟩ := d
  cases patterns <;> cases patterns' <;> cases free <;> cases free' <;> cases busy <;>
    cases busy' <;> rfl

theorem Writes.not_isEmpty {call : Call} (h : Writes p call) (hc : ofPairs [p] = .ok c) :
    c.isEmpty = false := by
  rw [ofPairs_singleton, h.withPair] at hc
  cases h with
  | pattern f text =>
    obtain ⟨q, _, rfl⟩ := withPattern_eq_ok_iff.mp hc
    rfl
  | free value text h =>
    cases hc
    rfl
  | busy value text h =>
    cases hc
    rfl

theorem isEmpty_iff_nil (h : ofPairs pairs = .ok c) : c.isEmpty = true ↔ pairs = [] := by
  cases pairs with
  | nil =>
    cases h
    exact iff_of_true rfl rfl
  | cons p rest =>
    obtain ⟨d, e, hd, _, rfl⟩ := ofPairs_cons_eq_ok.mp h
    obtain ⟨call, hcall⟩ := exists_writes ((ofPairs_singleton p).symm.trans hd)
    rw [isEmpty_followedBy, hcall.not_isEmpty hd]
    simp

/-- How pairs are read. A list fails exactly if one of its pairs fails by itself, and then as the
first one that does. It comes to the same as the calls that its pairs write, made in this order, and
a list that is accepted writes some. If no flag is repeated every order of an accepted list is
accepted and selects the same. Only the empty list asks nothing. -/
theorem ofPairs_read_in_order (pairs : List (String × String)) :
    ((∃ r, ofPairs pairs = .error r) ↔ ∃ p ∈ pairs, ∃ r, ofPairs [p] = .error r) ∧
    (∀ r, ofPairs pairs = .error r ↔ ∃ front p back, pairs = front ++ p :: back ∧
      (∀ q ∈ front, ∃ c, ofPairs [q] = .ok c) ∧ ofPairs [p] = .error r) ∧
    (∀ calls, List.Forall₂ Writes pairs calls → ofPairs pairs = build calls) ∧
    (∀ c, ofPairs pairs = .ok c →
      (∃ calls, List.Forall₂ Writes pairs calls ∧ build calls = .ok c) ∧
      (c.isEmpty = true ↔ pairs = []) ∧
      ∀ pairs', pairs.Perm pairs' → (pairs.map (·.1)).count "free" ≤ 1 →
        (pairs.map (·.1)).count "busy" ≤ 1 →
        ∃ d, ofPairs pairs' = .ok d ∧ d.SelectSame c) := by
  refine ⟨exists_error_iff, fun _ => ofPairs_eq_error_iff, fun _ => ofPairs_eq_build, ?_⟩
  intro c hc
  refine ⟨?_, isEmpty_iff_nil hc, ?_⟩
  · obtain ⟨calls, hcalls⟩ := exists_calls hc
    exact ⟨calls, hcalls, (ofPairs_eq_build hcalls).symm.trans hc⟩
  · intro pairs' hperm hfree hbusy
    have halone := exists_ofPairs_iff.mp ⟨c, hc⟩
    obtain ⟨d, hd⟩ := exists_ofPairs_iff.mpr fun p hp => halone p (hperm.mem_iff.mpr hp)
    exact ⟨d, hd, selectSame_of_perm hc hd hperm hfree hbusy⟩

/-- A key that is no field and a flag that is no truth value, after a pattern that is accepted; and
a pattern and a flag in two orders. -/
theorem ofPairs_read_in_order_phone :
    ofPairs [("type", "ph"), ("colour", "red"), ("busy", "maybe")] =
      .error (.invalidCriterion (.unknownField "colour")) ∧
    ofPairs [("free", "TRUE"), ("type", "ph")] = build [.free true, .pattern .kind "ph"] ∧
    ∃ c d, ofPairs [("free", "TRUE"), ("type", "ph")] = .ok c ∧
      ofPairs [("type", "ph"), ("free", "TRUE")] = .ok d ∧ d.SelectSame c ∧ c.isEmpty ≠ true := by
  obtain ⟨_, hfirst, _, _⟩ :=
    ofPairs_read_in_order [("type", "ph"), ("colour", "red"), ("busy", "maybe")]
  obtain ⟨_, _, hbuild, hread⟩ := ofPairs_read_in_order [("free", "TRUE"), ("type", "ph")]
  obtain ⟨c, hc, _⟩ := exists_of_read true [("type", "ph")] true (by decide +kernel)
  obtain ⟨d, hd, _⟩ := exists_of_read true [("free", "TRUE"), ("type", "ph")] true
    (by decide +kernel)
  refine ⟨(hfirst _).mpr ⟨[("type", "ph")], ("colour", "red"), _, rfl, ?_, rfl⟩, hbuild _ ?_, ?_⟩
  · intro q hq
    obtain rfl := List.mem_singleton.mp hq
    exact ⟨c, hc⟩
  · exact .cons (.free true "TRUE" (by decide +kernel)) (.cons (.pattern .kind "ph") .nil)
  · obtain ⟨_, hempty, hperm⟩ := hread d hd
    obtain ⟨e, he, hsame⟩ := hperm [("type", "ph"), ("free", "TRUE")] (.swap _ _ _)
      (by decide) (by decide)
    exact ⟨d, e, hd, he, hsame, fun h => absurd (hempty.mp h) (by simp)⟩

end LeaseBroker.Criteria
