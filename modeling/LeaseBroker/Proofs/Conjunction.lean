import LeaseBroker.Criteria.Basic

/-!
# How far criteria are a conjunction

Criteria are written as pairs of key and value, and a device should be selected if every pair by
itself would select it. That holds of patterns, which add up. The flags `free` and `busy` have one
place each, so of several pairs with the same flag only the last one is in force. Criteria are the
conjunction of the pairs in force, and of all pairs as long as no flag is repeated with another
value.
-/

set_option autoImplicit false

namespace LeaseBroker.Criteria
variable {c d e : Criteria} {info : DeviceInfo} {available : Bool} {key value : String}
  {p q : String × String} {pairs : List (String × String)}

def Selects (c : Criteria) (info : DeviceInfo) (available : Bool) : Prop :=
  c.matchesInfo info = true ∧ c.matchesAvailability available = true

def SelectsAlone (pair : String × String) (info : DeviceInfo) (available : Bool) : Prop :=
  ∃ c, ofPairs [pair] = .ok c ∧ c.Selects info available

/-! ### Flags -/

def IsFlag (key : String) : Prop := key = "free" ∨ key = "busy"

instance (key : String) : Decidable (IsFlag key) := inferInstanceAs (Decidable (_ ∨ _))

def asked (c : Criteria) (key : String) : Option Bool :=
  if key = "free" then c.free else if key = "busy" then c.busy else none

def answer (key : String) (available : Bool) : Bool :=
  if key = "busy" then !available else available

theorem isFlag_of_asked {v : Bool} (h : c.asked key = some v) : IsFlag key := by
  unfold asked at h
  split at h
  · exact Or.inl ‹_›
  · split at h
    · exact Or.inr ‹_›
    · cases h

theorem selects_iff : c.Selects info available ↔
    (∀ fp ∈ c.patterns, fp.2.isMatch (fp.1.value info) = true) ∧
    ∀ key v, c.asked key = some v → v = answer key available := by
  have hflags : c.matchesAvailability available = true ↔
      ∀ key v, c.asked key = some v → v = answer key available := by
    simp only [matchesAvailability, Bool.and_eq_true, Option.all_eq_true, beq_iff_eq]
    constructor
    · rintro ⟨hfree, hbusy⟩ key v hv
      rcases isFlag_of_asked hv with rfl | rfl
      · exact hfree v hv
      · exact hbusy v hv
    · intro h
      exact ⟨fun v hv => h "free" v hv, fun v hv => h "busy" v hv⟩
  rw [Selects, hflags, matchesInfo, List.all_eq_true]

/-! ### Criteria that come after others -/

/-- The criteria of two lists of pairs of which the second comes after the first. -/
def followedBy (c d : Criteria) : Criteria where
  patterns := c.patterns ++ d.patterns
  free := d.free.or c.free
  busy := d.busy.or c.busy

theorem followedBy_assoc (c d e : Criteria) :
    (c.followedBy d).followedBy e = c.followedBy (d.followedBy e) := by
  simp [followedBy, List.append_assoc, Option.or_assoc]

theorem followedBy_default (c : Criteria) : c.followedBy {} = c := by
  simp [followedBy]

theorem asked_followedBy (c d : Criteria) (key : String) :
    (c.followedBy d).asked key = (d.asked key).or (c.asked key) := by
  unfold asked
  split
  · rfl
  · split <;> rfl

theorem withPair_followedBy (c d : Criteria) (key value : String) :
    (c.followedBy d).withPair key value = (d.withPair key value).map c.followedBy := by
  unfold withPair
  split
  · cases flag "free" value <;> rfl
  · cases flag "busy" value <;> rfl
  · cases field key with
    | error r => rfl
    | ok f =>
      change (c.followedBy d).withPattern f value = (d.withPattern f value).map c.followedBy
      unfold withPattern
      cases Pattern.anchored value with
      | error fault => rfl
      | ok pattern => simp [Except.map, followedBy, List.append_assoc]

theorem foldlM_withPair (pairs : List (String × String)) (c : Criteria) :
    pairs.foldlM (fun c p => c.withPair p.1 p.2) c = (ofPairs pairs).map c.followedBy := by
  induction pairs generalizing c with
  | nil => exact congrArg Except.ok c.followedBy_default.symm
  | cons p rest ih =>
    have hfirst := withPair_followedBy c {} p.1 p.2
    rw [followedBy_default] at hfirst
    rw [ofPairs, List.foldlM_cons, List.foldlM_cons, hfirst]
    cases ({} : Criteria).withPair p.1 p.2 with
    | error r => rfl
    | ok d =>
      change rest.foldlM _ (c.followedBy d) = Except.map c.followedBy (rest.foldlM _ d)
      rw [ih, ih]
      cases ofPairs rest with
      | error r => rfl
      | ok e => exact congrArg Except.ok (c.followedBy_assoc d e)

theorem ofPairs_append (xs ys : List (String × String)) :
    ofPairs (xs ++ ys) = (ofPairs xs).bind fun c => (ofPairs ys).map c.followedBy := by
  rw [ofPairs, List.foldlM_append]
  exact congrArg (ofPairs xs).bind (funext (foldlM_withPair ys))

theorem ofPairs_append_eq_ok {xs ys : List (String × String)} :
    ofPairs (xs ++ ys) = .ok e ↔
      ∃ c d, ofPairs xs = .ok c ∧ ofPairs ys = .ok d ∧ e = c.followedBy d := by
  rw [ofPairs_append]
  cases ofPairs xs with
  | error r => simp [Except.bind]
  | ok c =>
    cases ofPairs ys with
    | error r => simp [Except.bind, Except.map]
    | ok d => simp [Except.bind, Except.map, eq_comm]

theorem ofPairs_cons_eq_ok : ofPairs (p :: pairs) = .ok e ↔
    ∃ c d, ofPairs [p] = .ok c ∧ ofPairs pairs = .ok d ∧ e = c.followedBy d := by
  rw [← List.singleton_append, ofPairs_append_eq_ok]

/-! ### What pairs ask -/

theorem withPattern_eq_ok_iff {f : Field} {text : String} : c.withPattern f text = .ok d ↔
    ∃ q, Pattern.anchored text = .ok q ∧ d = { c with patterns := c.patterns ++ [(f, q)] } := by
  unfold withPattern
  cases Pattern.anchored text with
  | error fault => simp
  | ok q => simp [eq_comm]

theorem ofPairs_singleton (p : String × String) :
    ofPairs [p] = ({} : Criteria).withPair p.1 p.2 := by
  rw [ofPairs, List.foldlM_cons]
  cases ({} : Criteria).withPair p.1 p.2 <;> rfl

theorem alone_cases (h : ofPairs [p] = .ok c) :
    (IsFlag p.1 ∧ ∃ v, flag p.1 p.2 = .ok v ∧ c.patterns = [] ∧
      ∀ key, c.asked key = if key = p.1 then some v else none) ∨
    (¬ IsFlag p.1 ∧ ∀ key, c.asked key = none) := by
  obtain ⟨name, value⟩ := p
  rw [ofPairs_singleton] at h
  unfold withPair at h
  split at h
  · rename_i hname
    cases hv : flag name value with
    | error r => simp [hv, Except.map] at h
    | ok v =>
      simp only [hv, Except.map, Except.ok.injEq] at h
      subst h
      exact Or.inl ⟨Or.inl hname, v, rfl, rfl, fun key => by rw [hname]; simp [asked, withFree]⟩
  · rename_i hname
    cases hv : flag name value with
    | error r => simp [hv, Except.map] at h
    | ok v =>
      simp only [hv, Except.map, Except.ok.injEq] at h
      subst h
      refine Or.inl ⟨Or.inr hname, v, rfl, rfl, fun key => ?_⟩
      rw [hname]
      by_cases hk : key = "busy" <;> simp [asked, withBusy, hk]
  · rename_i hfree hbusy
    cases hf : field name with
    | error r => simp [hf, bind, Except.bind] at h
    | ok f =>
      simp only [hf, bind, Except.bind] at h
      obtain ⟨q, _, rfl⟩ := withPattern_eq_ok_iff.mp h
      exact Or.inr ⟨fun hflag => hflag.elim hfree hbusy, fun key => by simp [asked]⟩

theorem exists_of_asked {v : Bool} (h : ofPairs pairs = .ok c) (hv : c.asked key = some v) :
    ∃ p ∈ pairs, p.1 = key ∧ flag key p.2 = .ok v := by
  induction pairs generalizing c with
  | nil =>
    cases h
    simp [asked] at hv
  | cons p rest ih =>
    obtain ⟨d, e, hd, he, rfl⟩ := ofPairs_cons_eq_ok.mp h
    rw [asked_followedBy, Option.or_eq_some_iff] at hv
    rcases hv with hlater | ⟨_, hfirst⟩
    · obtain ⟨q, hq, hkey, hflag⟩ := ih he hlater
      exact ⟨q, List.mem_cons_of_mem p hq, hkey, hflag⟩
    · rcases alone_cases hd with ⟨_, w, hw, _, hasked⟩ | ⟨_, hasked⟩ <;> rw [hasked] at hfirst
      · split at hfirst
        · rename_i hkey
          cases hfirst
          exact ⟨p, List.mem_cons_self, hkey.symm, hkey ▸ hw⟩
        · cases hfirst
      · cases hfirst

theorem asked_ne_none (h : ofPairs pairs = .ok c) (hp : p ∈ pairs) (hflag : IsFlag p.1) :
    c.asked p.1 ≠ none := by
  induction pairs generalizing c with
  | nil => cases hp
  | cons q rest ih =>
    obtain ⟨d, e, hd, he, rfl⟩ := ofPairs_cons_eq_ok.mp h
    rw [asked_followedBy]
    intro hnone
    obtain ⟨hlater, hfirst⟩ := Option.or_eq_none_iff.mp hnone
    rcases List.mem_cons.mp hp with rfl | hrest
    · rcases alone_cases hd with ⟨_, v, _, _, hasked⟩ | ⟨hpattern, _⟩
      · rw [hasked, if_pos rfl] at hfirst
        cases hfirst
      · exact hpattern hflag
    · exact ih he hrest hlater

/-! ### Conjunctions -/

/-- Criteria that are asked the same under every flag, if they are asked anything there at all,
add up. -/
theorem selects_followedBy_of_agree
    (h : ∀ key v w, c.asked key = some v → d.asked key = some w → v = w) :
    (c.followedBy d).Selects info available ↔
      c.Selects info available ∧ d.Selects info available := by
  have hpatterns : (c.followedBy d).patterns = c.patterns ++ d.patterns := rfl
  simp only [selects_iff, asked_followedBy, Option.or_eq_some_iff, hpatterns, List.mem_append]
  constructor
  · rintro ⟨hpatterns, hflags⟩
    refine ⟨⟨fun fp hfp => hpatterns fp (Or.inl hfp), fun key v hv => ?_⟩,
      fun fp hfp => hpatterns fp (Or.inr hfp), fun key v hv => hflags key v (Or.inl hv)⟩
    cases hd : d.asked key with
    | none => exact hflags key v (Or.inr ⟨hd, hv⟩)
    | some w => exact (h key v w hv hd).trans (hflags key w (Or.inl hd))
  · rintro ⟨⟨hpatterns, hflags⟩, hpatterns', hflags'⟩
    refine ⟨fun fp hfp => hfp.elim (hpatterns fp) (hpatterns' fp), fun key v hv => ?_⟩
    exact hv.elim (hflags' key v) fun hfirst => hflags key v hfirst.2

theorem followedBy_of_overridden (hpatterns : c.patterns = [])
    (h : ∀ key, c.asked key ≠ none → d.asked key ≠ none) : c.followedBy d = d := by
  have hfree := h "free"
  have hbusy := h "busy"
  simp only [asked, if_true, String.reduceEq, if_false] at hfree hbusy
  obtain ⟨patterns, free, busy⟩ := d
  unfold followedBy
  rw [hpatterns]
  congr 1
  · cases free <;> simp_all
  · cases busy <;> simp_all

/-- The pairs that have a say: every pattern, and the last pair of each flag. -/
def inForce : List (String × String) → List (String × String)
  | [] => []
  | p :: rest =>
    if IsFlag p.1 ∧ p.1 ∈ rest.map (·.1) then inForce rest else p :: inForce rest

theorem inForce_subset : inForce pairs ⊆ pairs := by
  induction pairs with
  | nil => exact List.Subset.refl _
  | cons p rest ih =>
    unfold inForce
    split
    · exact List.subset_cons_of_subset p ih
    · exact List.cons_subset_cons p ih

theorem selectsAlone_iff (h : ofPairs [p] = .ok c) :
    SelectsAlone p info available ↔ c.Selects info available := by
  simp [SelectsAlone, h]

theorem selects_iff_inForce (h : ofPairs pairs = .ok c) :
    c.Selects info available ↔ ∀ p ∈ inForce pairs, SelectsAlone p info available := by
  induction pairs generalizing c with
  | nil =>
    cases h
    simp [inForce, selects_iff, asked]
  | cons p rest ih =>
    obtain ⟨d, e, hd, he, rfl⟩ := ofPairs_cons_eq_ok.mp h
    unfold inForce
    split
    · rename_i hagain
      obtain ⟨hflag, hkey⟩ := hagain
      obtain ⟨q, hq, hqp⟩ := List.mem_map.mp hkey
      have hlater : e.asked p.1 ≠ none := hqp ▸ asked_ne_none he hq (hqp ▸ hflag)
      rcases alone_cases hd with ⟨_, v, _, hpatterns, hasked⟩ | ⟨hpattern, _⟩
      · rw [followedBy_of_overridden hpatterns, ih he]
        intro key hne
        rw [hasked] at hne
        split at hne
        · rename_i hk
          rw [hk]
          exact hlater
        · exact absurd rfl hne
      · exact absurd hflag hpattern
    · rename_i hlast
      rw [List.forall_mem_cons, selectsAlone_iff hd, ← ih he]
      refine selects_followedBy_of_agree fun key v w hv hw => ?_
      -- A flag that is asked for by both would stand again among the later pairs.
      obtain ⟨q, hq, hkey, _⟩ := exists_of_asked he hw
      obtain ⟨q', hq', hkey', _⟩ := exists_of_asked hd hv
      obtain rfl := List.mem_singleton.mp hq'
      exact absurd ⟨hkey' ▸ isFlag_of_asked hv, List.mem_map.mpr ⟨q, hq, hkey.trans hkey'.symm⟩⟩
        hlast

/-- Whether two pairs do not ask different things under one flag. -/
def Agree (p q : String × String) : Prop := IsFlag p.1 → p.1 = q.1 → p.2.toLower = q.2.toLower

theorem flag_eq_of_toLower {value' : String} {v w : Bool} (h : value.toLower = value'.toLower)
    (hv : flag key value = .ok v) (hw : flag key value' = .ok w) : v = w := by
  unfold flag at hv hw
  rw [← h] at hw
  generalize value.toLower = text at hv hw
  split at hv <;> cases hv
  · exact Except.ok.inj hw
  · exact Except.ok.inj hw

theorem selects_followedBy_of_pairs {xs ys : List (String × String)} (hc : ofPairs xs = .ok c)
    (hd : ofPairs ys = .ok d) (h : ∀ p ∈ xs, ∀ q ∈ ys, Agree p q) :
    (c.followedBy d).Selects info available ↔
      c.Selects info available ∧ d.Selects info available := by
  refine selects_followedBy_of_agree fun key v w hv hw => ?_
  obtain ⟨p, hp, rfl, hpv⟩ := exists_of_asked hc hv
  obtain ⟨q, hq, hkey, hqw⟩ := exists_of_asked hd hw
  exact flag_eq_of_toLower (h p hp q hq (isFlag_of_asked hv) hkey.symm) hpv hqw

theorem selects_iff_forall_of_agree (h : ofPairs pairs = .ok c)
    (hagree : ∀ p ∈ pairs, ∀ q ∈ pairs, Agree p q) :
    c.Selects info available ↔ ∀ p ∈ pairs, SelectsAlone p info available := by
  induction pairs generalizing c with
  | nil =>
    cases h
    simp [selects_iff, asked]
  | cons p rest ih =>
    obtain ⟨d, e, hd, he, rfl⟩ := ofPairs_cons_eq_ok.mp h
    have hrest : ∀ q ∈ rest, ∀ q' ∈ rest, Agree q q' := fun q hq q' hq' =>
      hagree q (List.mem_cons_of_mem p hq) q' (List.mem_cons_of_mem p hq')
    rw [List.forall_mem_cons, selectsAlone_iff hd, ← ih he hrest]
    refine selects_followedBy_of_pairs hd he fun q hq q' hq' => ?_
    exact hagree q (List.mem_singleton.mp hq ▸ List.mem_cons_self) q' (List.mem_cons_of_mem p hq')

/-- Criteria are the conjunction of the pairs in force. So a device that every pair selects by
itself is selected, and if no flag is repeated with another value only such a device is. A pair
that is added last, and agrees with those before it, narrows the selection. -/
theorem conjunction_of_pairs_in_force (h : ofPairs pairs = .ok c) (info : DeviceInfo)
    (available : Bool) :
    (c.Selects info available ↔ ∀ p ∈ inForce pairs, SelectsAlone p info available) ∧
    ((∀ p ∈ pairs, SelectsAlone p info available) → c.Selects info available) ∧
    ((∀ p ∈ pairs, ∀ q ∈ pairs, Agree p q) →
      (c.Selects info available ↔ ∀ p ∈ pairs, SelectsAlone p info available)) ∧
    (∀ last c', ofPairs (pairs ++ [last]) = .ok c' → (∀ p ∈ pairs, Agree p last) →
      c'.Selects info available → c.Selects info available) := by
  refine ⟨selects_iff_inForce h, ?_, selects_iff_forall_of_agree h, ?_⟩
  · intro hall
    exact (selects_iff_inForce h).mpr fun p hp => hall p (inForce_subset hp)
  · intro last c' hc' hagree hselects
    obtain ⟨c, d, hc, hd, rfl⟩ := ofPairs_append_eq_ok.mp hc'
    cases h.symm.trans hc
    have hlast : ∀ p ∈ pairs, ∀ q ∈ [last], Agree p q := fun p hp q hq =>
      List.mem_singleton.mp hq ▸ hagree p hp
    exact ((selects_followedBy_of_pairs hc hd hlast).mp hselects).1

def phone : DeviceInfo := { id := "A", kind := "phone-1" }

theorem exists_of_read (selected : Bool) (pairs : List (String × String)) (available : Bool)
    (h : ((ofPairs pairs).toOption.map fun c =>
      c.matchesInfo phone && c.matchesAvailability available) = some selected) :
    ∃ c, ofPairs pairs = .ok c ∧ (c.Selects phone available ↔ selected = true) := by
  obtain ⟨c, hc, hselected⟩ := Option.map_eq_some_iff.mp h
  refine ⟨c, ?_, ?_⟩
  · cases hpairs : ofPairs pairs with
    | error r =>
      rw [hpairs] at hc
      cases hc
    | ok d =>
      rw [hpairs] at hc
      exact congrArg Except.ok (Option.some.inj hc)
  · rw [← hselected, Bool.and_eq_true]
    rfl

theorem conjunction_of_pairs_in_force_phone :
    (∃ c, ofPairs [("free", "false"), ("type", "ph"), ("type", ".*1"), ("free", "TRUE")] = .ok c ∧
      c.Selects phone true ∧ SelectsAlone ("free", "TRUE") phone true ∧
      SelectsAlone ("type", ".*1") phone true) ∧
    (∃ c, ofPairs [("type", "ph"), ("free", "TRUE")] = .ok c ∧
      (c.Selects phone false ↔
        ∀ p ∈ [("type", "ph"), ("free", "TRUE")], SelectsAlone p phone false) ∧
      ∀ c', ofPairs [("type", "ph"), ("free", "TRUE"), ("free", "true")] = .ok c' →
        c'.Selects phone false → c.Selects phone false) := by
  obtain ⟨c, hc, hselects⟩ := exists_of_read true
    [("free", "false"), ("type", "ph"), ("type", ".*1"), ("free", "TRUE")] true (by decide +kernel)
  obtain ⟨d, hd, _⟩ := exists_of_read false
    [("type", "ph"), ("free", "TRUE")] false (by decide +kernel)
  refine ⟨⟨c, hc, hselects.mpr rfl, ?_⟩, d, hd, ?_⟩
  · have halone := (conjunction_of_pairs_in_force hc phone true).1.mp (hselects.mpr rfl)
    exact ⟨halone _ (by decide), halone _ (by decide)⟩
  · obtain ⟨_, _, hall, hlast⟩ := conjunction_of_pairs_in_force hd phone false
    refine ⟨hall ?_, fun c' hc' => hlast ("free", "true") c' hc' ?_⟩
    · unfold Agree
      decide +kernel
    · -- Each text is read by itself, since comparing unread ones takes long.
      have hupper : "TRUE".toLower = "true" := by decide +kernel
      have hlower : "true".toLower = "true" := by decide +kernel
      intro p hp _ hkey
      rcases List.mem_cons.mp hp with rfl | hp
      · exact absurd hkey (by decide)
      · rw [List.mem_singleton.mp hp, hupper, hlower]

/-- A device that is not free is selected by a pair that comes after one asking for a free device,
although the earlier pair would not select it. -/
theorem later_flag_overrules :
    ∃ c, ofPairs [("free", "true"), ("free", "false")] = .ok c ∧ c.Selects phone false ∧
      ∃ d, ofPairs [("free", "true")] = .ok d ∧ ¬ d.Selects phone false := by
  obtain ⟨c, hc, hselects⟩ := exists_of_read true
    [("free", "true"), ("free", "false")] false (by decide +kernel)
  obtain ⟨d, hd, hrejects⟩ := exists_of_read false
    [("free", "true")] false (by decide +kernel)
  exact ⟨c, hc, hselects.mpr rfl, d, hd, fun h => Bool.false_ne_true (hrejects.mp h)⟩

end LeaseBroker.Criteria
