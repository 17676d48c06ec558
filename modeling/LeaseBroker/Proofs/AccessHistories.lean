import LeaseBroker.Proofs.Filtering

/-!
# Histories of the access lists

The lists change call by call, and a call that is refused leaves them as they are. What matters for
an identifier in the end is the last call for it that has not been refused: it is on the list if
that call has put it there. Putting on and taking off undo each other, and the deny list lets
through the less the longer it is.
-/

set_option autoImplicit false

namespace LeaseBroker

inductive ListCall where
  | enlist (list : Listing) (id : DeviceId)
  | delist (list : Listing) (id : DeviceId)
  deriving DecidableEq, Repr

namespace ListCall

def list : ListCall → Listing
  | enlist list _ => list
  | delist list _ => list

def id : ListCall → DeviceId
  | enlist _ id => id
  | delist _ id => id

end ListCall

namespace AccessLists

/-! ### Calls and histories -/

def attempt (lists : AccessLists) : ListCall → Except Refusal AccessLists
  | .enlist list id => lists.enlist list id
  | .delist list id => lists.delist list id

def call (lists : AccessLists) (c : ListCall) : AccessLists :=
  match lists.attempt c with
  | .ok changed => changed
  | .error _ => lists

/-- What a call leaves if it touches the list before it finds out that it is refused. -/
def carryOut (lists : AccessLists) : ListCall → AccessLists
  | .enlist list id => lists.set list ((lists.get list).add id)
  | .delist list id => lists.set list (SortedMap.erase (lists.get list) id)

def after (lists : AccessLists) (calls : List ListCall) : AccessLists := calls.foldl call lists

def succeeding : AccessLists → List ListCall → List ListCall
  | _, [] => []
  | lists, c :: rest =>
    match lists.attempt c with
    | .ok changed => c :: changed.succeeding rest
    | .error _ => lists.succeeding rest

def lastSuccess? (lists : AccessLists) (calls : List ListCall) (list : Listing) (id : DeviceId) :
    Option ListCall :=
  (lists.succeeding calls).reverse.find? fun c => c.list = list ∧ c.id = id

variable {lists changed : AccessLists} {list other : Listing} {id : DeviceId} {c : ListCall}
  {calls : List ListCall} {refusal : Refusal}

/-! ### Getting and setting one of the two -/

@[simp] theorem get_set (lists : AccessLists) (list : Listing) (ids : SortedSet DeviceId) :
    (lists.set list ids).get list = ids := by
  cases list <;> rfl

theorem get_set_of_ne (h : list ≠ other) (ids : SortedSet DeviceId) :
    (lists.set list ids).get other = lists.get other := by
  cases list <;> cases other
  · exact absurd rfl h
  · rfl
  · rfl
  · exact absurd rfl h

@[simp] theorem set_set (lists : AccessLists) (list : Listing) (ids ids' : SortedSet DeviceId) :
    (lists.set list ids).set list ids' = lists.set list ids' := by
  cases list <;> rfl

@[simp] theorem set_get (lists : AccessLists) (list : Listing) :
    lists.set list (lists.get list) = lists := by
  cases list <;> rfl

/-! ### One call -/

theorem enlist_cases (lists : AccessLists) (list : Listing) (id : DeviceId) :
    (id ∈ lists.members list ∧ lists.enlist list id = .error (.alreadyListed id list) ∧
      lists.carryOut (.enlist list id) = lists) ∨
    (id ∉ lists.members list ∧
      lists.enlist list id = .ok (lists.carryOut (.enlist list id))) := by
  rw [mem_members_iff]
  by_cases h : (lists.get list).contains id = true
  · refine Or.inl ⟨h, if_pos h, ?_⟩
    rw [carryOut, SortedSet.add_of_contains h, set_get]
  · exact Or.inr ⟨h, if_neg h⟩

theorem delist_cases (lists : AccessLists) (list : Listing) (id : DeviceId) :
    (id ∉ lists.members list ∧ lists.delist list id = .error (.notListed id list) ∧
      lists.carryOut (.delist list id) = lists) ∨
    (id ∈ lists.members list ∧
      lists.delist list id = .ok (lists.carryOut (.delist list id))) := by
  rw [mem_members_iff]
  by_cases h : (lists.get list).contains id = true
  · exact Or.inr ⟨h, if_pos h⟩
  · refine Or.inl ⟨h, if_neg h, ?_⟩
    rw [carryOut, SortedSet.erase_of_not_contains h, set_get]

/-- Whether it is refused or not, a call leaves what carrying it out leaves. -/
theorem attempt_cases (lists : AccessLists) (c : ListCall) :
    (∃ refusal, lists.attempt c = .error refusal ∧ lists.carryOut c = lists) ∨
    lists.attempt c = .ok (lists.carryOut c) := by
  cases c with
  | enlist list id =>
    rcases lists.enlist_cases list id with ⟨_, hrefused, hsame⟩ | ⟨_, hok⟩
    · exact Or.inl ⟨_, hrefused, hsame⟩
    · exact Or.inr hok
  | delist list id =>
    rcases lists.delist_cases list id with ⟨_, hrefused, hsame⟩ | ⟨_, hok⟩
    · exact Or.inl ⟨_, hrefused, hsame⟩
    · exact Or.inr hok

theorem call_of_ok (h : lists.attempt c = .ok changed) : lists.call c = changed := by
  rw [call, h]

theorem call_of_error (h : lists.attempt c = .error refusal) : lists.call c = lists := by
  rw [call, h]

theorem call_eq_carryOut (lists : AccessLists) (c : ListCall) :
    lists.call c = lists.carryOut c := by
  rcases lists.attempt_cases c with ⟨refusal, hrefused, hsame⟩ | hok
  · rw [call_of_error hrefused, hsame]
  · exact call_of_ok hok

theorem carryOut_of_ok (h : lists.attempt c = .ok changed) : changed = lists.carryOut c := by
  rw [← call_eq_carryOut, call_of_ok h]

theorem call_get_of_ne (h : c.list ≠ list) : (lists.call c).get list = lists.get list := by
  rw [call_eq_carryOut]
  cases c with
  | enlist => exact get_set_of_ne h _
  | delist => exact get_set_of_ne h _

theorem mem_call_iff : id ∈ (lists.call c).members list ↔
    c = .enlist list id ∨ c ≠ .delist list id ∧ id ∈ lists.members list := by
  by_cases hlist : c.list = list
  · subst hlist
    rw [call_eq_carryOut, mem_members_iff, mem_members_iff]
    cases c with
    | enlist own i =>
      rw [carryOut, ListCall.list, get_set, SortedSet.contains_add]
      simp [@eq_comm _ id i]
    | delist own i =>
      rw [carryOut, ListCall.list, get_set, SortedSet.contains_erase]
      simp [@eq_comm _ id i]
  · have henlist : c ≠ .enlist list id := by
      rintro rfl
      exact hlist rfl
    have hdelist : c ≠ .delist list id := by
      rintro rfl
      exact hlist rfl
    rw [members, call_get_of_ne hlist]
    simp [members, henlist, hdelist]

theorem mem_call_of_ne (h : c.id ≠ id) :
    id ∈ (lists.call c).members list ↔ id ∈ lists.members list := by
  have henlist : c ≠ .enlist list id := by
    rintro rfl
    exact h rfl
  have hdelist : c ≠ .delist list id := by
    rintro rfl
    exact h rfl
  simp [mem_call_iff, henlist, hdelist]

theorem enlist_ok_iff :
    (∃ changed, lists.enlist list id = .ok changed) ↔ id ∉ lists.members list := by
  rcases lists.enlist_cases list id with ⟨hmem, hrefused, _⟩ | ⟨habsent, hok⟩
  · simp [hmem, hrefused]
  · simp [habsent, hok]

theorem delist_ok_iff :
    (∃ changed, lists.delist list id = .ok changed) ↔ id ∈ lists.members list := by
  rcases lists.delist_cases list id with ⟨habsent, hrefused, _⟩ | ⟨hmem, hok⟩
  · simp [habsent, hrefused]
  · simp [hmem, hok]

/-! ### Undoing a call -/

theorem delist_of_enlist (h : lists.enlist list id = .ok changed) :
    changed.delist list id = .ok lists := by
  have habsent : id ∉ lists.members list := enlist_ok_iff.mp ⟨changed, h⟩
  have hchanged : changed = lists.carryOut (.enlist list id) := carryOut_of_ok h
  subst hchanged
  have hmem : ((lists.get list).add id).contains id = true :=
    SortedSet.contains_add.mpr (Or.inl rfl)
  rw [mem_members_iff] at habsent
  rw [delist, carryOut, get_set, if_pos hmem, SortedSet.erase_add habsent, set_set, set_get]

theorem enlist_of_delist (h : lists.delist list id = .ok changed) :
    changed.enlist list id = .ok lists := by
  have hmem : id ∈ lists.members list := delist_ok_iff.mp ⟨changed, h⟩
  have hchanged : changed = lists.carryOut (.delist list id) := carryOut_of_ok h
  subst hchanged
  have habsent : ¬SortedMap.contains (SortedMap.erase (lists.get list) id) id = true := by
    intro hcontains
    exact (SortedSet.contains_erase.mp hcontains).1 rfl
  rw [mem_members_iff] at hmem
  rw [enlist, carryOut, get_set, if_neg habsent, SortedSet.add_erase hmem, set_set, set_get]

/-! ### The deny list alone -/

theorem members_call_deny (h : c.list = .deny) :
    (lists.call c).members .allow = lists.members .allow := by
  have hne : c.list ≠ .allow := by
    rw [h]
    decide
  exact congrArg SortedSet.members (call_get_of_ne hne)

theorem permits_of_call_enlist {other : DeviceId}
    (h : (lists.call (.enlist .deny id)).permits other = true) : lists.permits other = true := by
  rw [permits_iff] at h ⊢
  obtain ⟨hdeny, hallow⟩ := h
  rw [members_call_deny rfl] at hallow
  refine ⟨?_, hallow⟩
  intro hmem
  exact hdeny (mem_call_iff.mpr (Or.inr ⟨ListCall.noConfusion, hmem⟩))

theorem permits_call_delist {other : DeviceId} (h : lists.permits other = true) :
    (lists.call (.delist .deny id)).permits other = true := by
  rw [permits_iff] at h ⊢
  obtain ⟨hdeny, hallow⟩ := h
  rw [members_call_deny rfl]
  refine ⟨?_, hallow⟩
  intro hmem
  rcases mem_call_iff.mp hmem with hother | ⟨_, hbefore⟩
  · cases hother
  · exact hdeny hbefore

/-! ### Histories -/

theorem mem_members_ofMembers {allow deny : List DeviceId} :
    id ∈ (ofMembers allow deny).members list ↔
      id ∈ (match list with | .allow => allow | .deny => deny) := by
  cases list
  · exact SortedSet.mem_members_ofList
  · exact SortedSet.mem_members_ofList

theorem after_concat (lists : AccessLists) (calls : List ListCall) (c : ListCall) :
    lists.after (calls ++ [c]) = (lists.after calls).call c := by
  rw [after, List.foldl_append]
  rfl

theorem succeeding_append (lists : AccessLists) (calls rest : List ListCall) :
    lists.succeeding (calls ++ rest) =
      lists.succeeding calls ++ (lists.after calls).succeeding rest := by
  induction calls generalizing lists with
  | nil => rfl
  | cons c calls ih =>
    have hafter : lists.after (c :: calls) = (lists.call c).after calls := rfl
    rw [List.cons_append, succeeding, succeeding, hafter]
    cases hattempt : lists.attempt c with
    | ok changed =>
      rw [call_of_ok hattempt]
      exact congrArg (c :: ·) (ih changed)
    | error refusal =>
      rw [call_of_error hattempt]
      exact ih lists

theorem lastSuccess?_of_error (h : (lists.after calls).attempt c = .error refusal) :
    lists.lastSuccess? (calls ++ [c]) list id = lists.lastSuccess? calls list id := by
  simp only [lastSuccess?, succeeding_append, succeeding, h, List.append_nil]

theorem lastSuccess?_of_ok (h : (lists.after calls).attempt c = .ok changed) :
    lists.lastSuccess? (calls ++ [c]) list id =
      if c.list = list ∧ c.id = id then some c else lists.lastSuccess? calls list id := by
  simp only [lastSuccess?, succeeding_append, succeeding, h, List.reverse_append,
    List.reverse_singleton, List.singleton_append, List.find?_cons]
  split
  · rename_i hown
    rw [if_pos (of_decide_eq_true hown)]
  · rename_i hown
    rw [if_neg (of_decide_eq_false hown)]

/-- An identifier is on a list exactly if the last call for both that was not refused has put it
there, or if there was none and it has been there from the start. -/
theorem mem_after_iff (lists : AccessLists) (calls : List ListCall) :
    id ∈ (lists.after calls).members list ↔
      lists.lastSuccess? calls list id = some (.enlist list id) ∨
      lists.lastSuccess? calls list id = none ∧ id ∈ lists.members list := by
  induction calls using List.reverseRecOn with
  | nil => simp [after, lastSuccess?, succeeding]
  | append_singleton calls c ih =>
    rw [after_concat]
    cases hattempt : (lists.after calls).attempt c with
    | error refusal => rw [call_of_error hattempt, lastSuccess?_of_error hattempt, ih]
    | ok changed =>
      rw [mem_call_iff, lastSuccess?_of_ok hattempt]
      by_cases hown : c.list = list ∧ c.id = id
      · -- The call is now the last for them, so what was before does not matter.
        obtain ⟨rfl, rfl⟩ := hown
        cases c with
        | enlist list id => simp [ListCall.list, ListCall.id]
        | delist list id => simp [ListCall.list, ListCall.id]
      · have henlist : c ≠ .enlist list id := by
          rintro rfl
          exact hown ⟨rfl, rfl⟩
        have hdelist : c ≠ .delist list id := by
          rintro rfl
          exact hown ⟨rfl, rfl⟩
        rw [if_neg hown, ← ih]
        simp [henlist, hdelist]

/-- From any given lists, repeats included, and after any calls: an identifier is on a list by the
last call for both that was not refused, or from the start if there was none. And whatever the
lists are, putting on is refused for what is there and taking off for what is not, a refused call
leaves the lists as they are even if it touches them first, no call touches another membership, the
two calls undo each other, the deny list lets through the less the longer it is, and permitted is
what is not denied and on the allow list if that has members. -/
theorem listed_by_last_success :
    (∀ (allow deny : List DeviceId) (calls : List ListCall) (list : Listing) (id : DeviceId),
      id ∈ ((ofMembers allow deny).after calls).members list ↔
        (ofMembers allow deny).lastSuccess? calls list id = some (.enlist list id) ∨
        (ofMembers allow deny).lastSuccess? calls list id = none ∧
          id ∈ (match list with | .allow => allow | .deny => deny)) ∧
    ∀ lists : AccessLists,
      (∀ (list : Listing) (id : DeviceId),
        ((∃ changed, lists.enlist list id = .ok changed) ↔ id ∉ lists.members list) ∧
        ((∃ changed, lists.delist list id = .ok changed) ↔ id ∈ lists.members list)) ∧
      (∀ c : ListCall, lists.call c = lists.carryOut c ∧
        ∀ refusal, lists.attempt c = .error refusal → lists.call c = lists) ∧
      (∀ (c : ListCall) (list : Listing) (id : DeviceId), c.list ≠ list ∨ c.id ≠ id →
        (id ∈ (lists.call c).members list ↔ id ∈ lists.members list)) ∧
      (∀ (list : Listing) (id : DeviceId) (changed : AccessLists),
        (lists.enlist list id = .ok changed → changed.delist list id = .ok lists) ∧
        (lists.delist list id = .ok changed → changed.enlist list id = .ok lists)) ∧
      (∀ id other : DeviceId,
        ((lists.call (.enlist .deny id)).permits other = true → lists.permits other = true) ∧
        (lists.permits other = true → (lists.call (.delist .deny id)).permits other = true)) ∧
      ∀ id : DeviceId, lists.permits id = true ↔
        id ∉ lists.members .deny ∧ (lists.members .allow = [] ∨ id ∈ lists.members .allow) := by
  refine ⟨?_, ?_⟩
  · intro allow deny calls list id
    rw [mem_after_iff, mem_members_ofMembers]
  · intro lists
    refine ⟨?_, ?_, ?_, ?_, ?_, ?_⟩
    · intro list id
      exact ⟨enlist_ok_iff, delist_ok_iff⟩
    · intro c
      exact ⟨lists.call_eq_carryOut c, fun _ => call_of_error⟩
    · rintro c list id (hlist | hid)
      · rw [members, members, call_get_of_ne hlist]
      · exact mem_call_of_ne hid
    · intro list id changed
      exact ⟨delist_of_enlist, enlist_of_delist⟩
    · intro id other
      exact ⟨permits_of_call_enlist, permits_call_delist⟩
    · intro id
      exact permits_iff

/-- A history in which the first and the third call are refused. -/
def mixedCalls : List ListCall :=
  [.enlist .allow "A", .delist .allow "A", .delist .allow "A", .enlist .deny "A",
    .delist .deny "B"]

/-- The one allowed identifier, given twice, is taken off at once and denied. The other is denied no
longer, and nothing is left on the allow list to keep it out. -/
theorem listed_by_last_success_mixed :
    "A" ∉ ((ofMembers ["A", "A"] ["B"]).after mixedCalls).members .allow ∧
    "A" ∈ ((ofMembers ["A", "A"] ["B"]).after mixedCalls).members .deny ∧
    ((ofMembers ["A", "A"] ["B"]).after mixedCalls).permits "B" = true ∧
    ∃ changed, ((ofMembers ["A", "A"] ["B"]).after mixedCalls).enlist .allow "C" = .ok changed ∧
      changed.permits "B" = false ∧
      changed.delist .allow "C" = .ok ((ofMembers ["A", "A"] ["B"]).after mixedCalls) := by
  obtain ⟨hlisted, hcalls⟩ := listed_by_last_success
  obtain ⟨hallowed, _, _, hundone, _, hpermits⟩ :=
    hcalls ((ofMembers ["A", "A"] ["B"]).after mixedCalls)
  have hlast : (ofMembers ["A", "A"] ["B"]).lastSuccess? mixedCalls .allow "A" =
      some (.delist .allow "A") := by decide +kernel
  have hdenied : (ofMembers ["A", "A"] ["B"]).lastSuccess? mixedCalls .deny "A" =
      some (.enlist .deny "A") := by decide +kernel
  refine ⟨?_, ?_, ?_, ?_⟩
  · rw [hlisted, hlast]
    decide
  · rw [hlisted, hdenied]
    exact Or.inl rfl
  · rw [hpermits]
    decide +kernel
  · obtain ⟨changed, hchanged⟩ := (hallowed .allow "C").1.mpr (by decide +kernel)
    have hcarried := carryOut_of_ok (c := .enlist .allow "C") hchanged
    refine ⟨changed, hchanged, ?_, (hundone .allow "C" changed).1 hchanged⟩
    rw [hcarried]
    decide +kernel

end AccessLists

end LeaseBroker
