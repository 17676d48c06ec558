import LeaseBroker.Proofs.Anchoring
import LeaseBroker.Proofs.CriteriaPairs

/-!
# Which patterns are accepted

A text that is a pattern by itself is accepted as a criterion unless a comment is still open at its
end, which then takes in the parenthesis that is put behind the text. The group in front makes a
pattern two levels deeper and one state larger, so a pattern that is near a limit is left out here.
-/

set_option autoImplicit false

namespace LeaseBroker

namespace Pattern
variable {p : Pattern} {piece : Piece} {text : String}

structure Piece.WellBelow (piece : Piece) : Prop where
  depth : piece.depth + 2 ≤ nestLimit
  memory : ∀ forward, ((piece.pattern.size forward false).add frameSize).memory + Size.perState ≤
    PatternFault.memoryLimit

def IsValid (text : String) : Prop := ∃ piece, read? text.toList = some piece ∧ piece.WellBelow

/-- Whether a comment is open at the end of a text, so that a stray parenthesis behind it does not
matter. -/
def EndsInComment (text : String) : Prop := ∃ p, ofString (text ++ ")") = .ok p

instance (piece : Piece) : Decidable piece.WellBelow :=
  decidable_of_iff (piece.depth + 2 ≤ nestLimit ∧ ∀ forward,
      ((piece.pattern.size forward false).add frameSize).memory + Size.perState ≤
        PatternFault.memoryLimit)
    ⟨fun h => ⟨h.1, h.2⟩, fun h => ⟨h.depth, h.memory⟩⟩

instance (text : String) : Decidable (IsValid text) :=
  decidable_of_iff ((read? text.toList).any (fun piece => decide piece.WellBelow) = true)
    (by cases h : read? text.toList <;> simp [IsValid, h])

instance (text : String) : Decidable (EndsInComment text) :=
  decidable_of_iff ((ofString (text ++ ")")).toOption.isSome = true)
    (by cases h : ofString (text ++ ")") <;> simp [EndsInComment, h, Except.toOption])

theorem memory_atStart_le (forward : Bool) (p : Pattern) :
    ((((look .textStart).andThen p).size forward false).add frameSize).memory ≤
      ((p.size forward false).add frameSize).memory + Size.perState := by
  by_cases hp : p = .empty
  · subst hp
    exact Nat.le_add_right _ _
  · have heq : (look .textStart).andThen p = .seq (.look .textStart) p := by
      rw [andThen, if_neg nofun, if_neg hp]
    rw [heq]
    simp only [size, Size.memory, Size.add, Size.perState]
    omega

theorem Piece.WellBelow.fits (h : piece.WellBelow) : piece.pattern.fits = true := by
  have hbelow := fun forward => Nat.le_trans (Nat.le_add_right _ _) (h.memory forward)
  rw [Pattern.fits, Bool.and_eq_true, decide_eq_true_eq, decide_eq_true_eq]
  exact ⟨hbelow true, hbelow false⟩

theorem Piece.WellBelow.atStart_fits (h : piece.WellBelow) : piece.atStart.pattern.fits = true := by
  have hbelow := fun forward => Nat.le_trans (memory_atStart_le forward _) (h.memory forward)
  rw [Pattern.fits, Bool.and_eq_true, decide_eq_true_eq, decide_eq_true_eq]
  exact ⟨hbelow true, hbelow false⟩

theorem IsValid.ofString_eq (h : IsValid text) : ∃ p, ofString text = .ok p := by
  obtain ⟨piece, hread, hbelow⟩ := h
  have hdepth := hbelow.depth
  exact ⟨_, ofChars_eq_ok_iff.mpr ⟨piece, hread, by omega, hbelow.fits, rfl⟩⟩

theorem anchored_cases (h : IsValid text) :
    (∃ q, anchored text = .ok q) ∧ ¬ EndsInComment text ∨
      Commented text.toList ∧ anchored text = .error .malformed ∧ EndsInComment text := by
  obtain ⟨p, hp⟩ := h.ofString_eq
  obtain ⟨piece, hread, hbelow⟩ := h
  have hdepth := hbelow.depth
  have hanchored : anchored text = ofChars (anchoredText text) := by
    rw [anchored, hp]
    rfl
  have hbehind : (text ++ ")").toList = text.toList ++ [')'] := String.toList_append
  rw [hanchored, EndsInComment, ofString, hbehind]
  rcases read?_anchored hread with ⟨hgrouped, hstray⟩ | ⟨hcomment, hlost, hstays⟩
  · have haccepted := ofChars_eq_ok_iff.mpr
      ⟨_, hgrouped, hbelow.depth, hbelow.atStart_fits, rfl⟩
    refine Or.inl ⟨⟨_, haccepted⟩, ?_⟩
    rintro ⟨q, hq⟩
    obtain ⟨piece', hread', _⟩ := ofChars_eq_ok_iff.mp hq
    cases hstray.symm.trans hread'
  · have hstray := ofChars_eq_ok_iff.mpr ⟨piece, hstays, by omega, hbelow.fits, rfl⟩
    exact Or.inr ⟨hcomment, ofChars_of_none hlost, _, hstray⟩

end Pattern

namespace Criteria

theorem ofPairs_name (field : Field) (text : String) :
    ofPairs [(field.name, text)] = ({} : Criteria).withPattern field text := by
  rw [ofPairs_singleton]
  exact (Writes.pattern field text).withPair {}

/-- Which patterns are accepted. One that is valid by itself and well below the limits is accepted,
alone and as a pair, unless a comment is open at its end; then it is refused as malformed. -/
theorem valid_accepted_unless_commented {text : String} (h : Pattern.IsValid text) (c : Criteria)
    (field : Field) :
    (∃ p, Pattern.ofString text = .ok p) ∧
    ((∃ d, c.withPattern field text = .ok d) ↔ ¬ Pattern.EndsInComment text) ∧
    ((∃ d, ofPairs [(field.name, text)] = .ok d) ↔ ¬ Pattern.EndsInComment text) ∧
    (Pattern.EndsInComment text → Pattern.Commented text.toList ∧
      c.withPattern field text = .error (.invalidPattern field .malformed)) := by
  have haccepted : ∀ c : Criteria, (∃ d, c.withPattern field text = .ok d) ↔
      ¬ Pattern.EndsInComment text := by
    intro c
    simp only [withPattern_eq_ok_iff]
    rcases Pattern.anchored_cases h with ⟨⟨q, hq⟩, hclosed⟩ | ⟨_, hfails, hopen⟩
    · exact iff_of_true ⟨_, q, hq, rfl⟩ hclosed
    · refine iff_of_false ?_ (not_not_intro hopen)
      rintro ⟨d, q, hq, _⟩
      cases hfails.symm.trans hq
  refine ⟨h.ofString_eq, haccepted c, ofPairs_name field text ▸ haccepted {}, fun hopen => ?_⟩
  rcases Pattern.anchored_cases h with ⟨_, hclosed⟩ | ⟨hcomment, hfails, _⟩
  · exact absurd hopen hclosed
  · refine ⟨hcomment, ?_⟩
    rw [withPattern, hfails]

/-- The end of the line ends the comment, so the pattern is accepted. -/
theorem valid_accepted_unless_commented_closed :
    Pattern.IsValid "(?x)BE # comment\n" ∧ ¬ Pattern.EndsInComment "(?x)BE # comment\n" ∧
    (∃ d, ({} : Criteria).withPattern .id "(?x)BE # comment\n" = .ok d) ∧
    ∃ d, ofPairs [("id", "(?x)BE # comment\n")] = .ok d := by
  have hvalid : Pattern.IsValid "(?x)BE # comment\n" := by decide +kernel
  have hclosed : ¬ Pattern.EndsInComment "(?x)BE # comment\n" := by decide +kernel
  obtain ⟨_, haccepted, hpair, _⟩ := valid_accepted_unless_commented hvalid {} .id
  exact ⟨hvalid, hclosed, haccepted.mpr hclosed, hpair.mpr hclosed⟩

/-- Without the end of the line the pattern is still one by itself, and it matches, but it is
refused as a criterion. -/
theorem valid_refused_commented :
    Pattern.IsValid "(?x)BE # comment" ∧
    (∃ p, Pattern.ofString "(?x)BE # comment" = .ok p ∧ p.MatchesAt "BE1" 0) ∧
    ({} : Criteria).withPattern .id "(?x)BE # comment" = .error (.invalidPattern .id .malformed) ∧
    ofPairs [("id", "(?x)BE # comment")] = .error (.invalidPattern .id .malformed) := by
  have hvalid : Pattern.IsValid "(?x)BE # comment" := by decide +kernel
  have hstart : (Pattern.ofString "(?x)BE # comment").toOption.map (·.matchesAtStart "BE1") =
      some true := by decide +kernel
  have hrefused : Pattern.anchored "(?x)BE # comment" = .error .malformed := by decide +kernel
  obtain ⟨p, hp⟩ := hvalid.ofString_eq
  rw [hp] at hstart
  have hrefuses : ({} : Criteria).withPattern .id "(?x)BE # comment" =
      .error (.invalidPattern .id .malformed) := by rw [withPattern, hrefused]
  refine ⟨hvalid, ⟨p, hp, ?_⟩, hrefuses, (ofPairs_name .id _).trans hrefuses⟩
  exact (Pattern.matchesAtStart_iff (Pattern.ofString_bounded hp) _).mp (Option.some.inj hstart)

end Criteria

end LeaseBroker
