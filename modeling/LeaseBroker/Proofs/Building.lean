import LeaseBroker.Pattern.Builder
import LeaseBroker.Proofs.Matching
import LeaseBroker.Proofs.PartReaders

/-!
# Building a pattern part by part

What a builder does with a text is followed as a run, one part after another. A run goes the same
way inside further open groups, which it never closes. A closing parenthesis behind the text closes
the innermost of those groups, unless a comment takes it in.
-/

set_option autoImplicit false

namespace LeaseBroker.Pattern
variable {b b' b'' : Builder} {s rest : List Char} {token : Token}

namespace Builder

/-- A run of the builder over a text to its end. -/
inductive Reads : Builder → List Char → Builder → Prop where
  | done {b : Builder} {s : List Char} (hskip : skip b.flags.verbose s = []) : Reads b s b
  | part {b b' b'' : Builder} {s rest : List Char} {token : Token}
    (hread : readToken b.flags (skip b.flags.verbose s) = some (token, rest))
    (hadd : b.add? token = some b') (hless : rest.length < s.length)
    (hrest : Reads b' rest b'') : Reads b s b''

theorem addAll?_of_skip_eq_nil (h : skip b.flags.verbose s = []) : b.addAll? s = some b := by
  rw [addAll?, h]

theorem addAll?_of_read (hread : readToken b.flags (skip b.flags.verbose s) = some (token, rest))
    (hless : rest.length < s.length) :
    b.addAll? s = (b.add? token).bind fun b' => b'.addAll? rest := by
  rw [addAll?]
  cases hs : skip b.flags.verbose s with
  | nil =>
    rw [hs] at hread
    cases hread
  | cons c r =>
    rw [hs] at hread
    simp only [hread, if_pos hless]
    cases b.add? token <;> rfl

theorem Reads.addAll?_eq (h : Reads b s b') : b.addAll? s = some b' := by
  induction h with
  | done hskip => exact addAll?_of_skip_eq_nil hskip
  | part hread hadd hless _ ih => rw [addAll?_of_read hread hless, hadd, Option.bind_some, ih]

theorem reads_of_addAll? (h : b.addAll? s = some b') : Reads b s b' := by
  induction hn : s.length using Nat.strong_induction_on generalizing b s with
  | _ n ih =>
    rw [addAll?] at h
    split at h
    · rename_i hskip
      obtain rfl := Option.some.inj h
      exact .done hskip
    · rename_i c r hskip
      split at h
      · cases h
      · rename_i token rest hread
        split at h
        · cases h
        · rename_i b₁ hadd
          split at h
          · rename_i hless
            exact .part (hskip ▸ hread) hadd hless (ih _ (hn ▸ hless) h rfl)
          · cases h

/-! ### Inside open groups -/

/-- The same building inside further open groups. -/
def inside (b : Builder) (around : List OpenGroup) : Builder :=
  { b with groups := b.groups ++ around }

theorem repeatLast?_inside {min : Nat} {max : Option Nat} (h : b.repeatLast? min max = some b')
    (around : List OpenGroup) :
    (b.inside around).repeatLast? min max = some (b'.inside around) := by
  unfold repeatLast? at h ⊢
  cases hitems : b.items with
  | nil =>
    rw [hitems] at h
    cases h
  | cons x xs =>
    have hitems' : (b.inside around).items = x :: xs := hitems
    rw [hitems] at h
    rw [hitems']
    dsimp only at h ⊢
    split at h
    · rename_i hrepeatable
      obtain rfl := Option.some.inj h
      rw [if_pos hrepeatable]
      rfl
    · cases h

theorem open?_inside {opening : Opening} (h : b.open? opening = some b') (around : List OpenGroup) :
    (b.inside around).open? opening = some (b'.inside around) := by
  match opening with
  | .capture none =>
    obtain rfl := Option.some.inj h
    rfl
  | .capture (some name) =>
    dsimp only [open?] at h ⊢
    split at h
    · cases h
    · rename_i hname
      obtain rfl := Option.some.inj h
      exact if_neg hname
  | .plain setting =>
    obtain rfl := Option.some.inj h
    rfl

theorem close?_inside (h : b.close? = some b') (around : List OpenGroup) :
    (b.inside around).close? = some (b'.inside around) := by
  unfold close? at h ⊢
  cases hgroups : b.groups with
  | nil =>
    rw [hgroups] at h
    cases h
  | cons g groups =>
    have hgroups' : (b.inside around).groups = g :: (groups ++ around) := by
      rw [inside, hgroups, List.cons_append]
    rw [hgroups] at h
    rw [hgroups']
    obtain rfl := Option.some.inj h
    rfl

theorem add?_inside (h : b.add? token = some b') (around : List OpenGroup) :
    (b.inside around).add? token = some (b'.inside around) := by
  cases token with
  | piece p =>
    obtain rfl := Option.some.inj h
    rfl
  | repetition min max => exact repeatLast?_inside h around
  | bar =>
    obtain rfl := Option.some.inj h
    rfl
  | opening o => exact open?_inside h around
  | closing => exact close?_inside h around
  | setting setting =>
    obtain rfl := Option.some.inj h
    rfl

theorem Reads.inside (h : Reads b s b') (around : List OpenGroup) :
    Reads (b.inside around) s (b'.inside around) := by
  induction h with
  | done hskip => exact .done hskip
  | part hread hadd hless _ ih => exact .part hread (add?_inside hadd around) hless ih

/-! ### A closing parenthesis behind the text -/

/-- The parenthesis closes the innermost of the groups around the text, or it is lost. -/
theorem Reads.closing (h : Reads b s b') :
    (∀ around, (b.inside around).addAll? (s ++ [')']) = (b'.inside around).close?) ∨
      Commented s ∧ ∀ around, (b.inside around).addAll? (s ++ [')']) = some (b'.inside around) := by
  induction h with
  | @done b s hskip =>
    obtain ⟨-, left, hleft, hclosing⟩ :=
      skip_closes b.flags.verbose s () [] (congrArg (fun r => some ((), r)) hskip)
    have hskip' : skip b.flags.verbose (s ++ [')']) = left :=
      congrArg Prod.snd (Option.some.inj hleft)
    rcases hclosing with rfl | ⟨hcomment, rfl⟩
    · have hread : readToken b.flags (skip b.flags.verbose (s ++ [')'])) = some (.closing, []) := by
        rw [hskip']
        rfl
      apply Or.inl
      intro around
      rw [addAll?_of_read (b := b.inside around) hread (by simp)]
      cases hclose : (b.inside around).close? with
      | none => simp only [add?, hclose, Option.bind_none]
      | some b' =>
        simp only [add?, hclose, Option.bind_some]
        exact addAll?_of_skip_eq_nil (skip_nil _)
    · exact Or.inr ⟨hcomment, fun around => addAll?_of_skip_eq_nil hskip'⟩
  | @part b b' b'' s rest token hread hadd hless hrest ih =>
    obtain ⟨hsuffix, left, hread', hleft⟩ := (readToken_closes b.flags _).skip _ _ hread
    have hadd' := add?_inside hadd
    rcases hleft with rfl | ⟨hcomment, rfl⟩
    · have hless' : (rest ++ [')']).length < (s ++ [')']).length := by simpa using hless
      have hstep : ∀ around, (b.inside around).addAll? (s ++ [')']) =
          (b'.inside around).addAll? (rest ++ [')']) := by
        intro around
        rw [addAll?_of_read (b := b.inside around) hread' hless', hadd', Option.bind_some]
      rcases ih with hclosed | ⟨hcomment, hlost⟩
      · exact Or.inl fun around => (hstep around).trans (hclosed around)
      · exact Or.inr ⟨hcomment.of_suffix hsuffix, fun around => (hstep around).trans (hlost around)⟩
    · -- A comment has taken the parenthesis in, so the rest is read as without it.
      have hless' : left.length < (s ++ [')']).length := by
        rw [List.length_append]
        omega
      refine Or.inr ⟨hcomment, fun around => ?_⟩
      rw [addAll?_of_read (b := b.inside around) hread' hless', hadd', Option.bind_some]
      exact (hrest.inside around).addAll?_eq

end Builder

/-! ### Repetitions with their bounds in order -/

def Token.Bounded : Token → Prop
  | .piece p => p.pattern.Bounded
  | .repetition min max => ∀ m ∈ max, min ≤ m
  | _ => True

theorem readBounds_bounded {v : Bool} (h : readBounds v s = some (token, rest)) :
    token.Bounded := by
  obtain ⟨⟨min, r⟩, -, h⟩ := Option.bind_eq_some_iff.mp h
  obtain ⟨⟨max, r⟩, -, h⟩ := Option.bind_eq_some_iff.mp h
  dsimp only at h
  split at h
  · split at h
    · rename_i hmax
      obtain ⟨rfl, -⟩ := Prod.mk.inj (Option.some.inj h)
      intro m hm
      obtain rfl := Option.mem_def.mp hm
      simpa using hmax
    · cases h
  · cases h

theorem readSetting_bounded (h : readSetting s = some (token, rest)) : token.Bounded := by
  obtain ⟨⟨setting, r⟩, -, h⟩ := Option.bind_eq_some_iff.mp h
  dsimp only at h
  split at h
  · obtain ⟨rfl, -⟩ := Prod.mk.inj (Option.some.inj h)
    trivial
  · split at h
    · cases h
    · obtain ⟨rfl, -⟩ := Prod.mk.inj (Option.some.inj h)
      trivial
  · cases h

theorem readOpeningParen_bounded {v : Bool} (h : readOpeningParen v s = some (token, rest)) :
    token.Bounded := by
  unfold readOpeningParen at h
  split at h
  case h_7 => exact readSetting_bounded h
  case h_8 =>
    obtain ⟨rfl, -⟩ := Prod.mk.inj (Option.some.inj h)
    trivial
  case h_5 | h_6 =>
    obtain ⟨⟨name, r⟩, -, hopening⟩ := Option.map_eq_some_iff.mp h
    obtain ⟨rfl, -⟩ := Prod.mk.inj hopening
    trivial
  all_goals cases h

theorem atomPiece?_bounded {flags : Flags} {atom : Atom} {p : Piece}
    (h : atomPiece? flags atom = some p) : p.pattern.Bounded := by
  cases atom with
  | literal c asByte =>
    rw [atomPiece?] at h
    split at h
    · cases h
    · obtain rfl := Option.some.inj h
      trivial
  | shorthand s negated =>
    obtain ⟨set, -, rfl⟩ := Option.map_eq_some_iff.mp h
    trivial
  | property query negated =>
    obtain ⟨set, -, rfl⟩ := Option.map_eq_some_iff.mp h
    trivial
  | assertion a =>
    obtain rfl := Option.some.inj h
    trivial

theorem dotPiece?_bounded {flags : Flags} {p : Piece} (h : dotPiece? flags = some p) :
    p.pattern.Bounded := by
  unfold dotPiece? at h
  split_ifs at h
  all_goals
    obtain rfl := Option.some.inj h
    trivial

theorem piece_bounded {piece? : Option Piece} {r : List Char}
    (hpiece : ∀ p ∈ piece?, p.pattern.Bounded)
    (h : piece?.map (fun p => (Token.piece p, r)) = some (token, rest)) : token.Bounded := by
  obtain ⟨p, hp, htoken⟩ := Option.map_eq_some_iff.mp h
  obtain ⟨rfl, -⟩ := Prod.mk.inj htoken
  exact hpiece p hp

theorem readToken_bounded {flags : Flags} (h : readToken flags s = some (token, rest)) :
    token.Bounded := by
  cases s with
  | nil => cases h
  | cons c r =>
    simp only [readToken] at h
    split at h
    case h_1 => exact readOpeningParen_bounded h
    case h_4 =>
      obtain ⟨⟨cls, r⟩, -, h⟩ := Option.bind_eq_some_iff.mp h
      obtain ⟨rfl, -⟩ := Prod.mk.inj (Option.some.inj h)
      trivial
    case h_5 | h_6 | h_7 =>
      obtain ⟨rfl, -⟩ := Prod.mk.inj (Option.some.inj h)
      simp [Token.Bounded]
    case h_8 => exact readBounds_bounded h
    case h_9 =>
      obtain ⟨⟨atom, r⟩, -, h⟩ := Option.bind_eq_some_iff.mp h
      exact piece_bounded (fun _ => atomPiece?_bounded) h
    case h_10 => exact piece_bounded (fun _ => dotPiece?_bounded) h
    case h_11 | h_12 | h_13 => exact piece_bounded (fun _ => atomPiece?_bounded) h
    all_goals
      obtain ⟨rfl, -⟩ := Prod.mk.inj (Option.some.inj h)
      trivial

namespace Builder

def AllBounded (pieces : List Piece) : Prop := ∀ p ∈ pieces, p.pattern.Bounded

/-- Whether all that a builder holds has its bounds in order. -/
structure Bounded (b : Builder) : Prop where
  choices : AllBounded b.choices
  items : AllBounded b.items
  groups : ∀ g ∈ b.groups, AllBounded g.choices ∧ AllBounded g.items

theorem joinItems_bounded {items : List Piece} (h : AllBounded items) :
    (joinItems items).pattern.Bounded := by
  match items with
  | [] => trivial
  | [x] => exact h x List.mem_cons_self
  | x :: y :: items =>
    exact List.foldlRecOn (x :: y :: items) (fun acc x => x.pattern.andThen acc) trivial
      fun acc hacc x hx => (h x hx).andThen hacc

theorem joinChoices_bounded {last : Piece} {earlier : List Piece} (hlast : last.pattern.Bounded)
    (h : AllBounded earlier) : (joinChoices last earlier).pattern.Bounded := by
  cases earlier with
  | nil => exact hlast
  | cons x earlier =>
    exact List.foldlRecOn (x :: earlier) (fun acc x => Pattern.alt x.pattern acc) hlast
      fun acc hacc x hx => ⟨h x hx, hacc⟩

theorem Bounded.current (hb : b.Bounded) : b.current.pattern.Bounded :=
  joinChoices_bounded (joinItems_bounded hb.items) hb.choices

theorem Bounded.add? (hb : b.Bounded) (htoken : token.Bounded) (h : b.add? token = some b') :
    b'.Bounded := by
  cases token with
  | piece p =>
    obtain rfl := Option.some.inj h
    exact ⟨hb.choices, List.forall_mem_cons.mpr ⟨htoken, hb.items⟩, hb.groups⟩
  | repetition min max =>
    change b.repeatLast? min max = some b' at h
    unfold repeatLast? at h
    split at h
    · cases h
    · rename_i x xs hitems
      split at h
      · obtain rfl := Option.some.inj h
        obtain ⟨hx, hxs⟩ := List.forall_mem_cons.mp (hitems ▸ hb.items)
        exact ⟨hb.choices, List.forall_mem_cons.mpr ⟨hx.repeated htoken, hxs⟩, hb.groups⟩
      · cases h
  | bar =>
    obtain rfl := Option.some.inj h
    exact ⟨List.forall_mem_cons.mpr ⟨joinItems_bounded hb.items, hb.choices⟩, nofun, hb.groups⟩
  | opening o =>
    have hgroups : ∀ captures, ∀ g ∈ OpenGroup.mk captures b.flags b.choices b.items :: b.groups,
        AllBounded g.choices ∧ AllBounded g.items := fun captures =>
      List.forall_mem_cons.mpr ⟨⟨hb.choices, hb.items⟩, hb.groups⟩
    match o with
    | .capture none =>
      obtain rfl := Option.some.inj h
      exact ⟨nofun, nofun, hgroups true⟩
    | .capture (some name) =>
      dsimp only [Builder.add?, open?] at h
      split at h
      · cases h
      · obtain rfl := Option.some.inj h
        exact ⟨nofun, nofun, hgroups true⟩
    | .plain setting =>
      obtain rfl := Option.some.inj h
      exact ⟨nofun, nofun, hgroups false⟩
  | closing =>
    change b.close? = some b' at h
    unfold close? at h
    split at h
    · cases h
    · rename_i g groups hgroups
      obtain rfl := Option.some.inj h
      obtain ⟨⟨hchoices, hitems⟩, houter⟩ := List.forall_mem_cons.mp (hgroups ▸ hb.groups)
      refine ⟨hchoices, List.forall_mem_cons.mpr ⟨?_, hitems⟩, houter⟩
      dsimp only
      split_ifs
      · exact hb.current
      · exact hb.current
  | setting setting =>
    obtain rfl := Option.some.inj h
    exact ⟨hb.choices, List.forall_mem_cons.mpr ⟨trivial, hb.items⟩, hb.groups⟩

theorem Reads.bounded (h : Reads b s b') (hb : b.Bounded) : b'.Bounded := by
  induction h with
  | done _ => exact hb
  | part hread hadd _ _ ih => exact ih (hb.add? (readToken_bounded hread) hadd)

end Builder

end LeaseBroker.Pattern
