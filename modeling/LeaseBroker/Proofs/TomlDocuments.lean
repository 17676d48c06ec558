import LeaseBroker.Toml.Reader

/-!
# What TOML documents are made of

The documents that are read from TOML texts are put together from values, and the names of their
tables are put in one after the other. What holds of all values, and of a list or a table when it
holds of what is in it, holds of every document that is read.
-/

set_option autoImplicit false

namespace LeaseBroker

theorem Word.fitsSigned_iff {n : Int} :
    fitsSigned n = true ↔ -(signedLimit : Int) ≤ n ∧ n < signedLimit := by
  rw [fitsSigned, Bool.and_eq_true, decide_eq_true_eq, decide_eq_true_eq]

/-- Whether all that a reader gives has a property. -/
def Yields {α : Type} (P : α → Prop) (read : List Char → Option (α × List Char)) : Prop :=
  ∀ ⦃s : List Char⦄ ⦃a : α⦄ ⦃rest : List Char⦄, read s = some (a, rest) → P a

namespace Document
variable {α : Type}

theorem mem_putMember {name : String} {a : α} {members : List (String × α)} {m : String × α}
    (h : m ∈ putMember name a members) : m.2 = a ∨ m ∈ members := by
  induction members with
  | nil => simp_all [putMember]
  | cons old members ih =>
    obtain ⟨n, old⟩ := old
    rw [putMember] at h
    split at h
    · rcases List.mem_cons.mp h with rfl | h
      · exact .inl rfl
      · exact .inr (List.mem_cons_of_mem _ h)
    · rcases List.mem_cons.mp h with rfl | h
      · exact .inr List.mem_cons_self
      · exact (ih h).imp_right (List.mem_cons_of_mem _)

/-- Only a new name is added to the names of a table. -/
theorem names_putMember (name : String) (a : α) (members : List (String × α)) :
    (putMember name a members).map Prod.fst =
      if name ∈ members.map Prod.fst then members.map Prod.fst
      else members.map Prod.fst ++ [name] := by
  induction members with
  | nil => rfl
  | cons old members ih =>
    obtain ⟨n, old⟩ := old
    rw [putMember]
    by_cases hn : n = name
    · simp [hn]
    · have hn' : name ≠ n := Ne.symm hn
      simp only [hn, if_false, List.map_cons, ih, List.mem_cons, hn', false_or]
      split <;> rfl

end Document

namespace Toml
open Document

/-- Whether `P` holds of a document when it holds of its parts, and the names of its tables have
`T`, which holds of no names and is kept by a new one at the end. -/
structure BuildsUp (P : Document → Prop) (T : List String → Prop) : Prop where
  noNames : T []
  newName : ∀ {names : List String} {name : String}, T names → name ∉ names → T (names ++ [name])
  bool : ∀ b, P (.bool b)
  signed : ∀ {n : Int}, Word.fitsSigned n = true → P (.signed n)
  float : ∀ x, P (.float x)
  text : ∀ s, P (.text s)
  list : ∀ {items : List Document}, (∀ d ∈ items, P d) → P (.list items)
  table : ∀ {members : List (String × Document)}, T (members.map Prod.fst) →
    (∀ m ∈ members, P m.2) → P (.table members)

theorem based?_fits {base : Nat} {digits : List Char} {n : Int} (h : based? base digits = some n) :
    Word.fitsSigned n = true := by
  obtain ⟨ds, -, h⟩ := Option.bind_eq_some_iff.mp h
  simp only [Option.ite_none_right_eq_some, pure, Option.some.injEq] at h
  exact h.2 ▸ h.1

theorem whole?_fits {s : List Char} {n : Int} (h : whole? s = some n) :
    Word.fitsSigned n = true := by
  unfold whole? at h
  split at h
  · exact based?_fits h
  · exact based?_fits h
  · exact based?_fits h
  · simp only at h
    obtain ⟨ds, -, h⟩ := Option.bind_eq_some_iff.mp h
    simp only [Option.ite_none_right_eq_some, pure, Option.some.injEq] at h
    exact h.2 ▸ h.1

/-! ### Nodes -/

namespace Node

/-- Whether every value under a node has `P`, and the names of every table `T`. -/
inductive Of (P : Document → Prop) (T : List String → Prop) : Node → Prop
  | value {d : Document} (holds : P d) : Of P T (.value d)
  | table {implicit dotted : Bool} {members : List (String × Node)}
      (names : T (members.map Prod.fst)) (each : ∀ m ∈ members, Of P T m.2) :
      Of P T (.table implicit dotted members)
  | tables {ts : List (List (String × Node))} (names : ∀ t ∈ ts, T (t.map Prod.fst))
      (each : ∀ t ∈ ts, ∀ m ∈ t, Of P T m.2) : Of P T (.tables ts)

theorem mem_of_find? {name : String} {members : List (String × Node)} {node : Node}
    (h : find? name members = some node) : (name, node) ∈ members := by
  induction members with
  | nil => cases h
  | cons m members ih =>
    obtain ⟨n, old⟩ := m
    rw [find?] at h
    split at h
    · cases h
      simp_all
    · exact List.mem_cons_of_mem _ (ih h)

namespace Of
variable {P : Document → Prop} {T : List String → Prop} {implicit dotted : Bool} {name : String}
  {members : List (String × Node)} {node : Node} {t : List (String × Node)}
  {ts : List (List (String × Node))}

theorem found (h : (Node.table implicit dotted members).Of P T)
    (hfind : find? name members = some node) : node.Of P T := by
  cases h with
  | table _ each => exact each _ (mem_of_find? hfind)

/-- Whether a table is implicit or dotted has no bearing on what it holds. -/
theorem marked (h : (Node.table implicit dotted members).Of P T) (implicit' dotted' : Bool) :
    (Node.table implicit' dotted' members).Of P T := by
  cases h with
  | table names each => exact .table names each

theorem first (h : (Node.tables (t :: ts)).Of P T) : (Node.table implicit dotted t).Of P T := by
  cases h with
  | tables names each =>
    exact .table (List.forall_mem_cons.mp names).1 (List.forall_mem_cons.mp each).1

theorem others (h : (Node.tables (t :: ts)).Of P T) : (Node.tables ts).Of P T := by
  cases h with
  | tables names each =>
    exact .tables (List.forall_mem_cons.mp names).2 (List.forall_mem_cons.mp each).2

theorem cons (ht : (Node.table implicit dotted t).Of P T) (h : (Node.tables ts).Of P T) :
    (Node.tables (t :: ts)).Of P T := by
  cases ht with
  | table name each =>
    cases h with
    | tables names eachOther =>
      exact .tables (List.forall_mem_cons.mpr ⟨name, names⟩)
        (List.forall_mem_cons.mpr ⟨each, eachOther⟩)

end Of

section
variable {P : Document → Prop} {T : List String → Prop} (hp : BuildsUp P T)
include hp

theorem of_empty (implicit dotted : Bool) : (Node.table implicit dotted []).Of P T :=
  .table hp.noNames (by simp)

theorem Of.put {implicit dotted : Bool} {members : List (String × Node)} {node : Node}
    (h : (Node.table implicit dotted members).Of P T) (hnode : node.Of P T) (name : String) :
    (Node.table implicit dotted (putMember name node members)).Of P T := by
  cases h with
  | table names each =>
    refine .table ?_ fun m hm => ?_
    · rw [names_putMember]
      split
      · exact names
      · exact hp.newName names ‹_›
    · rcases mem_putMember hm with heq | hm
      · exact heq ▸ hnode
      · exact each m hm

/-- A change at the end of a path keeps what the change itself keeps. -/
theorem update_of {dotted : Bool} {act : Node → Option Node}
    (hact : ∀ {n m : Node}, n.Of P T → act n = some m → m.Of P T) (path : List String) :
    ∀ {n m : Node}, n.Of P T → update dotted act path n = some m → m.Of P T := by
  induction path with
  | nil => exact fun hn h => hact hn h
  | cons name path ih =>
    intro n m hn h
    cases n with
    | value | tables => cases h
    | table implicit isDotted members =>
      rw [update] at h
      split at h
      · obtain ⟨child, hchild, h⟩ := Option.bind_eq_some_iff.mp h
        cases h
        exact hn.put hp (ih (of_empty hp _ _) hchild) name
      · have hfound := hn.found ‹_›
        split at h
        · cases h
        · obtain ⟨child, hchild, h⟩ := Option.bind_eq_some_iff.mp h
          cases h
          exact hn.put hp (ih hfound hchild) name
      · have hfound := hn.found ‹_›
        obtain ⟨child, hchild, h⟩ := Option.bind_eq_some_iff.mp h
        have hlast := ih hfound.first hchild
        split at h
        · cases h
          exact hn.put hp (hlast.cons hfound.others) name
        · cases h
      · cases h

theorem assign_of {path : List String} {name : String} {d : Document} (hd : P d)
    {n m : Node} (hn : n.Of P T) (h : assign path name d n = some m) : m.Of P T := by
  refine update_of hp ?_ path hn h
  intro n m hn h
  cases n with
  | value | tables => cases h
  | table implicit isDotted members =>
    simp only at h
    split at h
    · cases h
    · split at h
      · cases h
        exact hn.put hp (.value hd) name
      · cases h

theorem define_of {path : List String} {name : String} {n m : Node} (hn : n.Of P T)
    (h : define path name n = some m) : m.Of P T := by
  refine update_of hp ?_ path hn h
  intro n m hn h
  cases n with
  | value | tables => cases h
  | table implicit isDotted members =>
    simp only at h
    split at h
    · cases h
      exact hn.put hp (of_empty hp _ _) name
    · have hfound := hn.found ‹_›
      cases h
      exact hn.put hp (hfound.marked _ _) name
    · cases h

theorem append_of {path : List String} {name : String} {n m : Node} (hn : n.Of P T)
    (h : append path name n = some m) : m.Of P T := by
  refine update_of hp ?_ path hn h
  intro n m hn h
  cases n with
  | value | tables => cases h
  | table implicit isDotted members =>
    simp only at h
    split at h
    · cases h
      exact hn.put hp ((of_empty hp false false).cons (.tables (by simp) (by simp))) name
    · have hfound := hn.found ‹_›
      cases h
      exact hn.put hp ((of_empty hp false false).cons hfound) name
    · cases h

end

theorem names_membersToDocument (members : List (String × Node)) :
    (membersToDocument members).map Prod.fst = members.map Prod.fst := by
  induction members with
  | nil => rfl
  | cons m members ih =>
    obtain ⟨name, node⟩ := m
    rw [membersToDocument, List.map_cons, List.map_cons, ih]

mutual

theorem Of.toDocument {P : Document → Prop} {T : List String → Prop} (hp : BuildsUp P T) :
    ∀ {n : Node}, n.Of P T → P n.toDocument
  | value _, .value h => h
  | table _ _ members, .table names each =>
    hp.table ((names_membersToDocument members).symm ▸ names) (membersToDocument_of hp each)
  | tables _, .tables names each => hp.list (tablesToDocument_of hp names each (by simp))

theorem membersToDocument_of {P : Document → Prop} {T : List String → Prop} (hp : BuildsUp P T) :
    ∀ {members : List (String × Node)}, (∀ m ∈ members, m.2.Of P T) →
      ∀ m ∈ membersToDocument members, P m.2
  | [], _ => by simp [membersToDocument]
  | (name, node) :: rest, h => by
    obtain ⟨hnode, hrest⟩ := List.forall_mem_cons.mp h
    exact List.forall_mem_cons.mpr ⟨hnode.toDocument hp, membersToDocument_of hp hrest⟩

theorem tablesToDocument_of {P : Document → Prop} {T : List String → Prop} (hp : BuildsUp P T) :
    ∀ {ts : List (List (String × Node))} {done : List Document},
      (∀ t ∈ ts, T (t.map Prod.fst)) → (∀ t ∈ ts, ∀ m ∈ t, m.2.Of P T) → (∀ d ∈ done, P d) →
      ∀ d ∈ tablesToDocument ts done, P d
  | [], _, _, _, hdone => hdone
  | t :: rest, done, names, h, hdone => by
    obtain ⟨ht, hrest⟩ := List.forall_mem_cons.mp h
    obtain ⟨hnames, hothers⟩ := List.forall_mem_cons.mp names
    have hfirst := hp.table ((names_membersToDocument t).symm ▸ hnames)
      (membersToDocument_of hp ht)
    rw [tablesToDocument]
    exact tablesToDocument_of hp hothers hrest (List.forall_mem_cons.mpr ⟨hfirst, hdone⟩)

end

end Node

/-! ### Values -/

section
variable {P : Document → Prop} {T : List String → Prop} (hp : BuildsUp P T)
include hp

theorem momentValue_holds (s : List Char) : P (momentValue s) := by
  refine hp.table (hp.newName hp.noNames List.not_mem_nil) fun m hm => ?_
  rw [List.mem_singleton.mp hm]
  exact hp.text _

theorem word?_holds {s : List Char} {d : Document} (h : word? s = some d) : P d := by
  unfold word? at h
  split at h
  · cases h
    exact hp.bool true
  split at h
  · cases h
    exact hp.bool false
  split at h
  · cases h
    exact momentValue_holds hp s
  · cases hwhole : whole? s with
    | some n =>
      rw [hwhole] at h
      cases h
      exact hp.signed (whole?_fits hwhole)
    | none =>
      simp only [hwhole, Option.map_none] at h
      obtain ⟨x, -, rfl⟩ : ∃ x, float? s = some x ∧ Document.float x = d := by simpa using h
      exact hp.float x

theorem readWord_yields : Yields P readWord := by
  intro s d rest h
  unfold readWord at h
  simp only at h
  split at h
  · split at h
    · cases h
      exact momentValue_holds hp _
    · obtain ⟨d', hd, heq⟩ := Option.map_eq_some_iff.mp h
      cases heq
      exact word?_holds hp hd
  · obtain ⟨d', hd, heq⟩ := Option.map_eq_some_iff.mp h
    cases heq
    exact word?_holds hp hd

omit hp in
theorem readItems_yields {item : Reader Document} (hitem : Yields P item) (fuel : Nat) :
    Yields (fun ds => ∀ d ∈ ds, P d) (readItems item fuel) := by
  induction fuel with
  | zero => exact fun s ds rest h => by cases h
  | succ fuel ih =>
    intro s ds rest h
    rw [readItems] at h
    obtain ⟨t, -, h⟩ := Option.bind_eq_some_iff.mp h
    split at h
    · cases h
      simp
    · obtain ⟨⟨d, u⟩, hd, h⟩ := Option.bind_eq_some_iff.mp h
      obtain ⟨v, -, h⟩ := Option.bind_eq_some_iff.mp h
      split at h
      · obtain ⟨⟨ds', w⟩, hds, h⟩ := Option.bind_eq_some_iff.mp h
        cases h
        exact List.forall_mem_cons.mpr ⟨hitem hd, ih hds⟩
      · cases h
        simpa using hitem hd
      · cases h

omit hp in
theorem readPair_yields {value : Reader Document} (hvalue : Yields P value) :
    Yields (fun p => P p.2.2) (readPair value) := by
  intro s p rest h
  obtain ⟨⟨path, name, t⟩, -, h⟩ := Option.bind_eq_some_iff.mp h
  simp only at h
  split at h
  · obtain ⟨⟨d, u⟩, hd, h⟩ := Option.bind_eq_some_iff.mp h
    cases h
    exact hvalue hd
  · cases h

theorem readPairs_yields {value : Reader Document} (hvalue : Yields P value) (fuel : Nat) :
    ∀ {node : Node}, node.Of P T → Yields (Node.Of P T) (readPairs value node fuel) := by
  induction fuel with
  | zero => exact fun _ s m rest h => by cases h
  | succ fuel ih =>
    intro node hnode s m rest h
    rw [readPairs] at h
    obtain ⟨⟨⟨path, name, d⟩, t⟩, hpair, h⟩ := Option.bind_eq_some_iff.mp h
    obtain ⟨node', hassign, h⟩ := Option.bind_eq_some_iff.mp h
    have hnode' := Node.assign_of hp (readPair_yields hvalue hpair) hnode hassign
    split at h
    · exact ih hnode' h
    · cases h
      exact hnode'
    · cases h

theorem readValue_yields (nesting : Nat) : Yields P (readValue nesting) := by
  induction nesting using Nat.strongRecOn with
  | ind nesting ih =>
    intro s d rest h
    unfold readValue at h
    split at h
    · obtain ⟨t, -, heq⟩ := Option.map_eq_some_iff.mp h
      cases heq
      exact hp.text _
    · obtain ⟨t, -, heq⟩ := Option.map_eq_some_iff.mp h
      cases heq
      exact hp.text _
    · obtain ⟨⟨items, t⟩, hitems, heq⟩ := Option.map_eq_some_iff.mp h
      cases heq
      exact hp.list (readItems_yields (ih _ (Nat.lt_succ_self _)) _ hitems)
    · split at h
      · cases h
        exact hp.table hp.noNames (by simp)
      · obtain ⟨⟨node, t⟩, hnode, heq⟩ := Option.map_eq_some_iff.mp h
        cases heq
        exact (readPairs_yields hp (ih _ (Nat.lt_succ_self _)) _
          (Node.of_empty hp _ _) hnode).toDocument hp
    · exact readWord_yields hp h

/-! ### Texts -/

namespace Progress

theorem readStatement_of {p q : Progress} {s rest : List Char} (hroot : p.root.Of P T)
    (h : p.readStatement s = some (q, rest)) : q.root.Of P T := by
  unfold readStatement at h
  split at h
  · obtain ⟨⟨path, name, t⟩, -, h⟩ := Option.bind_eq_some_iff.mp h
    obtain ⟨t', -, h⟩ := Option.bind_eq_some_iff.mp h
    obtain ⟨t'', -, h⟩ := Option.bind_eq_some_iff.mp h
    obtain ⟨root, happend, h⟩ := Option.bind_eq_some_iff.mp h
    obtain ⟨u, -, h⟩ := Option.bind_eq_some_iff.mp h
    cases h
    exact Node.append_of hp hroot happend
  · obtain ⟨⟨path, name, t⟩, -, h⟩ := Option.bind_eq_some_iff.mp h
    obtain ⟨t', -, h⟩ := Option.bind_eq_some_iff.mp h
    obtain ⟨root, hdefine, h⟩ := Option.bind_eq_some_iff.mp h
    obtain ⟨u, -, h⟩ := Option.bind_eq_some_iff.mp h
    cases h
    exact Node.define_of hp hroot hdefine
  · obtain ⟨⟨⟨path, name, d⟩, t⟩, hpair, h⟩ := Option.bind_eq_some_iff.mp h
    obtain ⟨q', hassign, h⟩ := Option.bind_eq_some_iff.mp h
    obtain ⟨u, -, h⟩ := Option.bind_eq_some_iff.mp h
    cases h
    have hd : P d := readPair_yields (readValue_yields hp depthLimit) hpair
    obtain ⟨root, hupdate, rfl⟩ := Option.map_eq_some_iff.mp hassign
    exact Node.update_of hp (fun hn h => Node.assign_of hp hd hn h) _ hroot hupdate

theorem readAll_of (fuel : Nat) : ∀ {p q : Progress} {s : List Char}, p.root.Of P T →
    readAll fuel p s = some q → q.root.Of P T := by
  induction fuel with
  | zero =>
    intro p q s hroot h
    rw [readAll] at h
    split at h
    · cases h
      exact hroot
    · cases h
  | succ fuel ih =>
    intro p q s hroot h
    rw [readAll] at h
    split at h
    · cases h
      exact hroot
    · split at h
      · exact ih hroot h
      · obtain ⟨⟨p', rest⟩, hp', h⟩ := Option.bind_eq_some_iff.mp h
        exact ih (readStatement_of hp hroot hp') h

end Progress

/-- What is built up holds of every document that is read from a text. -/
theorem BuildsUp.parse? {text : String} {d : Document} (h : Toml.parse? text = some d) : P d := by
  obtain ⟨p, hread, rfl⟩ := Option.map_eq_some_iff.mp h
  exact (Progress.readAll_of hp _ (p := {}) (Node.of_empty hp _ _) hread).toDocument hp

end

end Toml

end LeaseBroker
