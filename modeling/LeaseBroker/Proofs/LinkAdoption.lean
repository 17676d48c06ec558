import LeaseBroker.Proofs.LinkDirectories

/-!
# Adopting what a directory of links lists

As long as its directory stays as it is, what a family of serial adapters lists and what it adopts
agree: what is not listed is not present, and what is listed can be adopted once its link leads
somewhere, with what the name of that link says. If the directory cannot be listed, nothing can be
adopted, for the same reason. An adoption that fails takes nothing into ownership, so it can be
tried again.
-/

set_option autoImplicit false

namespace LeaseBroker

def Link.Gives (link : Link) (id : DeviceId) : Prop :=
  ∃ name, LinkName.parse? link.file = some name ∧ name.deviceId = id

namespace SerialFamily
variable {s : SerialFamily} {id : DeviceId} {a b : Adapter} {node : String}

/-- The entries that the system lists; none if there is no directory. -/
def links (s : SerialFamily) : List Link :=
  match s.directory with
  | some ⟨links, none⟩ => links
  | _ => []

/-- Whether the directory can be listed, or there is none. -/
def Listable (s : SerialFamily) : Prop := ∀ d ∈ s.directory, d.failure = none

/-- Whether a link counts for an identifier: its name gives it, and that of no later link does. -/
structure Counts (s : SerialFamily) (id : DeviceId) (a : Adapter) : Prop where
  named : LinkName.parse? a.link.file = some a.name
  gives : a.name.deviceId = id
  last : ∃ earlier later, s.links = earlier ++ a.link :: later ∧ ∀ link ∈ later, ¬ link.Gives id

theorem Listable.listing_eq (h : s.Listable) : s.listing = .ok s.adapters := by
  have hlists : ∃ seen, s.listing = .ok seen := by
    cases hd : s.directory with
    | none => exact ⟨∅, by simp only [listing, hd]⟩
    | some d => exact ⟨d.adapters, listing_of_listable hd (h d hd)⟩
  obtain ⟨seen, hseen⟩ := hlists
  simp only [adapters, hseen, Except.toOption, Option.getD_some]

theorem adapters_eq (s : SerialFamily) :
    s.adapters = LinkDirectory.adapters { links := s.links } := by
  obtain ⟨path, directory, adopted⟩ := s
  rcases directory with _ | ⟨links, _ | error⟩ <;> rfl

theorem get?_adapters_iff : s.adapters.get? id = some a ↔ s.Counts id a := by
  have hgives (link : Link) : ((LinkName.parse? link.file).map fun name =>
      (⟨name, link⟩ : Adapter)).any (·.name.deviceId == id) = true ↔ link.Gives id := by
    rw [Option.any_map, Option.any_eq_true]
    simp [Link.Gives]
  rw [adapters_eq, LinkDirectory.get?_adapters, LinkDirectory.shown, LinkDirectory.readable,
    ← List.filterMap_reverse, List.find?_filterMap, Option.bind_eq_some_iff]
  constructor
  · rintro ⟨link, hlast, ha⟩
    obtain ⟨name, hname, rfl⟩ := Option.map_eq_some_iff.mp ha
    obtain ⟨hlink, later, earlier, hsplit, hlater⟩ := List.find?_eq_some_iff_append.mp hlast
    obtain ⟨name', hname', hid⟩ := (hgives link).mp hlink
    cases hname.symm.trans hname'
    refine ⟨hname, hid, earlier.reverse, later.reverse, ?_, ?_⟩
    · simpa using congrArg List.reverse hsplit
    · intro other hother hagain
      have hnot := hlater other (List.mem_reverse.mp hother)
      rw [(hgives other).mpr hagain] at hnot
      cases hnot
  · rintro ⟨hname, hid, earlier, later, hlinks, hlater⟩
    refine ⟨a.link, ?_, by rw [hname]; rfl⟩
    refine List.find?_eq_some_iff_append.mpr
      ⟨(hgives a.link).mpr ⟨a.name, hname, hid⟩, later.reverse, earlier.reverse, ?_, ?_⟩
    · simp [hlinks]
    · intro other hother
      have hnot := hlater other (List.mem_reverse.mp hother)
      rwa [← hgives other, Bool.not_eq_true, ← Bool.not_eq_true'] at hnot

theorem Listable.rescan_eq (h : s.Listable) : s.rescan = .ok s.adapters.keys := by
  rw [rescan, h.listing_eq]
  rfl

theorem Counts.adopt_of_adopted (ha : s.Counts id a) (htarget : a.link.target = .node node)
    (hadopted : s.adopted.contains id = true) :
    s.adopt id = (.error (.alreadyAdopted id), s) := by
  have hget := get?_adapters_iff.mpr ha
  simp only [adopt, resolve, listing_of_get? hget, hget, htarget, hadopted, if_true]

end SerialFamily

end LeaseBroker
