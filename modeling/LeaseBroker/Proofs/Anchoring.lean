import LeaseBroker.Proofs.Building
import LeaseBroker.Proofs.Conjunction

/-!
# Patterns that match from the start

A pattern is put into a group behind a test for the start of the text. Since the pattern has been
read by itself before, no parenthesis in it closes that group, and its flags end with the group. The
pattern in the group is therefore the pattern by itself, and it has to match from the start of a
field.
-/

set_option autoImplicit false

namespace LeaseBroker

namespace Pattern
variable {s : List Char} {text : String} {p q : Pattern} {piece : Piece}

/-- What a text is read as, whatever its depth and size. -/
def read? (s : List Char) : Option Piece := (Builder.addAll? {} s).bind Builder.finish?

theorem ofChars_of_none (h : read? s = none) : ofChars s = .error .malformed := by
  rw [read?] at h
  rw [ofChars, h]

theorem ofChars_eq_ok_iff : ofChars s = .ok p ↔ ∃ piece, read? s = some piece ∧
    piece.depth ≤ nestLimit ∧ piece.pattern.fits = true ∧ piece.pattern = p := by
  rw [ofChars, ← read?]
  cases read? s with
  | none => simp
  | some piece =>
    dsimp only
    split_ifs with hdepth hfits
    · simp [Nat.not_le.mpr hdepth]
    · simp [Nat.not_lt.mp hdepth, hfits]
    · simp [hfits]

theorem exists_builder (h : read? s = some piece) :
    ∃ b, Builder.Reads {} s b ∧ b.groups = [] ∧ b.current = piece := by
  obtain ⟨b, hreads, hfinish⟩ := Option.bind_eq_some_iff.mp h
  unfold Builder.finish? at hfinish
  split at hfinish
  · rename_i hgroups
    exact ⟨b, Builder.reads_of_addAll? hreads, List.isEmpty_iff.mp hgroups,
      Option.some.inj hfinish⟩
  · cases hfinish

theorem read?_bounded (h : read? s = some piece) : piece.pattern.Bounded := by
  obtain ⟨b, hreads, _, rfl⟩ := exists_builder h
  exact (hreads.bounded ⟨nofun, nofun, nofun⟩).current

theorem ofString_bounded (h : ofString text = .ok p) : p.Bounded := by
  obtain ⟨piece, hread, _, _, rfl⟩ := ofChars_eq_ok_iff.mp h
  exact read?_bounded hread

/-! ### The group around a pattern -/

/-- The group that a pattern is put into, behind the test for the start. -/
def startGroup : OpenGroup := ⟨false, {}, [], [⟨.look .textStart, 0, true⟩]⟩

def Piece.atStart (piece : Piece) : Piece :=
  ⟨(Pattern.look .textStart).andThen piece.pattern, piece.depth + 2, true⟩

theorem andThen_empty (p : Pattern) : p.andThen .empty = p := by
  cases p <;> rfl

theorem addAll?_startGroup (s : List Char) : Builder.addAll? {} ("^(?:".toList ++ s) =
    (Builder.inside {} [startGroup]).addAll? s := by
  have htest : readToken {} ('^' :: '(' :: '?' :: ':' :: s) =
      some (.piece ⟨.look .textStart, 0, true⟩, '(' :: '?' :: ':' :: s) := rfl
  have hgroup : readToken {} ('(' :: '?' :: ':' :: s) = some (.opening (.plain []), s) := rfl
  exact (Builder.addAll?_of_read (b := {}) htest (Nat.lt_add_one _)).trans
    (Builder.addAll?_of_read (b := { items := startGroup.items }) hgroup
      (Nat.lt_add_of_pos_right (Nat.succ_pos 2)))

/-- Either the parenthesis behind a pattern closes the group, and then it would close nothing
without the group; or it is lost in a comment, and then the group stays open. -/
theorem read?_anchored (h : read? s = some piece) :
    read? ("^(?:".toList ++ s ++ [')']) = some piece.atStart ∧ read? (s ++ [')']) = none ∨
      Commented s ∧ read? ("^(?:".toList ++ s ++ [')']) = none ∧
        read? (s ++ [')']) = some piece := by
  obtain ⟨b, hreads, hgroups, rfl⟩ := exists_builder h
  have hinside : ∀ around, (b.inside around).groups = around := fun around => by
    rw [Builder.inside, hgroups, List.nil_append]
  have hanchored : read? ("^(?:".toList ++ s ++ [')']) =
      ((Builder.inside {} [startGroup]).addAll? (s ++ [')'])).bind Builder.finish? := by
    rw [read?, List.append_assoc, addAll?_startGroup]
  have hbare : read? (s ++ [')']) =
      ((Builder.inside {} []).addAll? (s ++ [')'])).bind Builder.finish? := rfl
  rw [hanchored, hbare]
  rcases hreads.closing with hclosed | ⟨hcomment, hlost⟩
  · apply Or.inl
    rw [hclosed, hclosed]
    simp only [Builder.close?, hinside]
    refine ⟨congrArg some ?_, rfl⟩
    have hdepth : Nat.max (Nat.max 0 (b.current.depth + 1)) 0 + 1 = b.current.depth + 2 := by
      simp
    rw [Piece.atStart, ← hdepth, ← andThen_empty b.current.pattern]
    rfl
  · apply Or.inr
    rw [hlost, hlost]
    simp only [Option.bind_some, Builder.finish?, hinside]
    exact ⟨hcomment, rfl, rfl⟩

theorem exists_of_anchored (h : anchored text = .ok q) :
    ∃ p, ofString text = .ok p ∧ q = (Pattern.look .textStart).andThen p := by
  unfold anchored at h
  cases hp : ofString text with
  | error fault =>
    rw [hp] at h
    cases h
  | ok p =>
    rw [hp] at h
    obtain ⟨piece, hread, _, _, rfl⟩ := ofChars_eq_ok_iff.mp hp
    obtain ⟨piece', hread', _, _, rfl⟩ := ofChars_eq_ok_iff.mp h
    refine ⟨piece.pattern, rfl, ?_⟩
    rcases read?_anchored hread with ⟨hgrouped, _⟩ | ⟨_, hlost, _⟩
    · obtain rfl := Option.some.inj (hread'.symm.trans hgrouped)
      rfl
    · cases hread'.symm.trans hlost

theorem matchesAt_start_iff (i : Nat) : ((Pattern.look .textStart).andThen p).MatchesAt text i ↔
    i = 0 ∧ p.MatchesAt text 0 := by
  constructor
  · rintro ⟨hi, j, hmatch⟩
    obtain ⟨k, ⟨rfl, hstart⟩, hp⟩ := matches_andThen.mp hmatch
    obtain rfl : i = 0 := by
      by_contra hi0
      have hlt : i - 1 < text.toList.length := by
        rw [String.length_toList]
        omega
      simp [Look.holds, spotAt, charBefore, hi0, hlt] at hstart
    exact ⟨rfl, hi, j, hp⟩
  · rintro ⟨rfl, hi, j, hp⟩
    exact ⟨hi, j, matches_andThen.mpr ⟨0, ⟨rfl, rfl⟩, hp⟩⟩

end Pattern

namespace Criteria
variable {c d : Criteria} {field : Field} {text : String}

/-- What a pattern asks of a device. -/
theorem pattern_holds_at_start (h : c.withPattern field text = .ok d) :
    ∃ p, Pattern.ofString text = .ok p ∧
      (∀ info, d.matchesInfo info = true ↔
        c.matchesInfo info = true ∧ p.MatchesAt (field.value info) 0) ∧
      (∀ info info', field.value info = field.value info' →
        c.matchesInfo info = c.matchesInfo info' → d.matchesInfo info = d.matchesInfo info') ∧
      (∀ info, (∀ i, p.MatchesAt (field.value info) i → 0 < i) → d.matchesInfo info = false) := by
  obtain ⟨q, hq, rfl⟩ := withPattern_eq_ok_iff.mp h
  obtain ⟨p, hp, rfl⟩ := Pattern.exists_of_anchored hq
  have hbounded : ((Pattern.look .textStart).andThen p).Bounded :=
    Pattern.Bounded.andThen trivial (Pattern.ofString_bounded hp)
  have hadded : ∀ info, matchesInfo
      { c with patterns := c.patterns ++ [(field, (Pattern.look .textStart).andThen p)] } info =
      (c.matchesInfo info && ((Pattern.look .textStart).andThen p).isMatch (field.value info)) := by
    intro info
    simp [matchesInfo]
  have hmatch : ∀ info, ((Pattern.look .textStart).andThen p).isMatch (field.value info) = true ↔
      p.MatchesAt (field.value info) 0 := by
    intro info
    simp [Pattern.isMatch_iff hbounded, Pattern.matchesAt_start_iff]
  refine ⟨p, hp, fun info => ?_, fun info info' hvalue hc => ?_, fun info hlater => ?_⟩
  · rw [hadded, Bool.and_eq_true, hmatch]
  · rw [hadded, hadded, hvalue, hc]
  · rw [hadded, Bool.and_eq_false_iff, ← Bool.not_eq_true (Pattern.isMatch _ _), hmatch]
    exact Or.inr fun hstart => Nat.lt_irrefl 0 (hlater 0 hstart)

/-- Two sizes, of which the second may stand in any line. -/
def sizes : String := "(?mx) 480x800 | ^(1280)x # in any line\n"

def wide : DeviceInfo := { id := "A", display := "1280x720" }

def stacked : DeviceInfo := { id := "B", display := "DSI\n1280x720" }

theorem pattern_holds_at_start_sizes : ∃ c p, ({} : Criteria).withPattern .display sizes = .ok c ∧
    Pattern.ofString sizes = .ok p ∧ c.matchesInfo wide = true ∧ p.MatchesAt wide.display 0 ∧
    (∃ i, p.MatchesAt stacked.display i) ∧ ¬ p.MatchesAt stacked.display 0 ∧
    c.matchesInfo stacked = false := by
  have hread : (({} : Criteria).withPattern .display sizes).toOption.map
      (fun c => (c.matchesInfo wide, c.matchesInfo stacked)) = some (true, false) := by
    decide +kernel
  have hlater : (Pattern.ofString sizes).toOption.map (·.isMatch stacked.display) = some true := by
    decide +kernel
  cases hc : ({} : Criteria).withPattern .display sizes with
  | error r =>
    rw [hc] at hread
    cases hread
  | ok c =>
    rw [hc] at hread
    obtain ⟨hwide, hstacked⟩ := Prod.mk.inj (Option.some.inj hread)
    obtain ⟨p, hp, hholds, _, _⟩ := pattern_holds_at_start hc
    rw [hp] at hlater
    refine ⟨c, p, rfl, hp, hwide, ((hholds wide).mp hwide).2, ?_, fun hstart => ?_, hstacked⟩
    · exact (Pattern.isMatch_iff (Pattern.ofString_bounded hp) _).mp (Option.some.inj hlater)
    · have hmatch := (hholds stacked).mpr ⟨rfl, hstart⟩
      exact Bool.false_ne_true (hstacked.symm.trans hmatch)

end Criteria

end LeaseBroker
