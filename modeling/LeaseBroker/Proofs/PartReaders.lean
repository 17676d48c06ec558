import LeaseBroker.Pattern.Token
import LeaseBroker.Proofs.PatternReaders

/-!
# A closing parenthesis behind a part of a pattern

A part that is read from a text is also read with a closing parenthesis behind the text, which is
left, unless a comment takes it in.
-/

set_option autoImplicit false

namespace LeaseBroker.Pattern
variable {v : Bool} {c : Char} {r s : List Char}

theorem dropLazyMark_closes (s : List Char) : Closes (fun s => some ((), dropLazyMark s)) s := by
  intro x rest h
  obtain ⟨-, rfl⟩ := Prod.mk.inj (Option.some.inj h)
  cases s with
  | nil => exact ⟨List.suffix_refl _, _, rfl, Or.inl rfl⟩
  | cons c r =>
    by_cases hc : c = '?'
    · subst hc
      exact ⟨List.suffix_cons _ _, _, rfl, Or.inl rfl⟩
    · have hkeep : ∀ t, dropLazyMark (c :: t) = c :: t := fun t => by simp [dropLazyMark, hc]
      rw [hkeep]
      refine ⟨List.suffix_refl _, _, ?_, Or.inl rfl⟩
      exact congrArg (fun t => some ((), t)) (hkeep (r ++ [')']))

theorem dropWhile_isBlank_closes (s : List Char) :
    Closes (fun s => some ((), s.dropWhile isBlank)) s := by
  intro x rest h
  obtain ⟨-, rfl⟩ := Prod.mk.inj (Option.some.inj h)
  refine ⟨List.dropWhile_suffix _, _, rfl, Or.inl ?_⟩
  rw [List.dropWhile_append]
  split_ifs with hnil
  · simp_all [not_isBlank_closing]
  · rfl

theorem readDecimalDigits_suffix (v inComment : Bool) (done : List Nat) (s : List Char) :
    (readDecimalDigits v inComment done s).2 <:+ s := by
  induction s generalizing inComment done with
  | nil => exact List.suffix_refl _
  | cons c r ih =>
    have hr : r <:+ c :: r := List.suffix_cons c r
    rw [readDecimalDigits]
    split_ifs
    · exact (ih _ _).trans hr
    · exact (ih _ _).trans hr
    · exact (ih _ _).trans hr
    · exact (ih _ _).trans hr
    · exact List.suffix_refl _

/-- A parenthesis behind the digits is left unless it belongs to a comment. -/
theorem readDecimalDigits_closing (v inComment : Bool) (done : List Nat) (s : List Char) :
    readDecimalDigits v inComment done (s ++ [')']) =
        (readDecimalDigits v inComment done s).map id (· ++ [')']) ∨
      CommentedIn inComment s ∧
        readDecimalDigits v inComment done (s ++ [')']) = readDecimalDigits v inComment done s := by
  induction s generalizing inComment done with
  | nil =>
    by_cases hin : (v && inComment) = true
    · obtain ⟨rfl, rfl⟩ := Bool.and_eq_true_iff.mp hin
      exact Or.inr ⟨Or.inr ⟨rfl, List.not_mem_nil⟩, rfl⟩
    · apply Or.inl
      have hin' : v = true → inComment = false := by simpa using hin
      simp [readDecimalDigits, not_isBlank_closing]
      exact hin'
  | cons c r ih =>
    rw [List.cons_append, readDecimalDigits, readDecimalDigits]
    split_ifs with hin hblank hmark
    · obtain ⟨rfl, rfl⟩ := Bool.and_eq_true_iff.mp hin
      exact (ih _ _).imp_right (And.imp_left CommentedIn.comment)
    · exact (ih _ _).imp_right (And.imp_left CommentedIn.cons)
    · obtain rfl : c = '#' := by simp_all
      exact (ih _ _).imp_right (And.imp_left CommentedIn.mark)
    · exact (ih _ _).imp_right (And.imp_left CommentedIn.cons)
    · exact Or.inl rfl

theorem readDecimalDigits_closes (v : Bool) (s : List Char) :
    Closes (fun s => some (readDecimalDigits v false [] s)) s := by
  intro digits rest h
  have hread := Option.some.inj h
  have hsuffix := readDecimalDigits_suffix v false [] s
  have hclosing := readDecimalDigits_closing v false [] s
  rw [hread] at hsuffix hclosing
  refine ⟨hsuffix, ?_⟩
  rcases hclosing with hclosing | ⟨hcomment, hclosing⟩
  · exact ⟨_, congrArg some hclosing, Or.inl rfl⟩
  · exact ⟨_, congrArg some hclosing, Or.inr ⟨hcomment.commented, rfl⟩⟩

theorem readCount_eq_bind (v : Bool) (s : List Char) :
    readCount v s = (some (readDecimalDigits v false [] (s.dropWhile isBlank))).bind fun y =>
      if y.1 ≠ [] ∧ y.1.foldl (fun n d => n * 10 + d) 0 < countLimit then
        some (y.1.foldl (fun n d => n * 10 + d) 0, skip v (y.2.dropWhile isBlank))
      else none := by
  rw [readCount, Option.bind_some]
  cases readDecimalDigits v false [] (s.dropWhile isBlank) with
  | mk digits rest =>
    cases digits with
    | nil => rfl
    | cons d digits => 
      simp

theorem readCount_closes (v : Bool) (s : List Char) : Closes (readCount v) s := by
  rw [funext (readCount_eq_bind v)]
  have hdigits := (dropWhile_isBlank_closes s).after (readDecimalDigits_closes v _)
  refine hdigits.bind fun digits r _ => ?_
  dsimp only
  split_ifs
  · exact (dropWhile_isBlank_closes r).after (R := fun r => some (_, skip v r)) (.pure_skip _ v _)
  · exact .of_none rfl

theorem readMax_closes (v : Bool) (min : Nat) (s : List Char) : Closes (readMax v min) s := by
  cases s with
  | nil =>
    intro x rest h
    obtain ⟨rfl, rfl⟩ := Prod.mk.inj (Option.some.inj h)
    exact ⟨List.suffix_refl _, _, rfl, Or.inl rfl⟩
  | cons c r =>
    by_cases hc : c = ','
    · subst hc
      apply Closes.cons
      simp only [readMax, Option.map_eq_bind]
      apply Closes.of_skip (v := v) fun s => by simp only [skip_skip]
      cases hr : skip v r with
      | nil =>
        apply Closes.of_none
        simp [readCount, readDecimalDigits]
      | cons d t =>
        have hd' : ∀ t, skip v (d :: t) = d :: t := skip_cons_of_skip hr
        by_cases hd : d = '\x7d'
        · subst hd
          refine Closes.congr (fun behind => ?_) (.pure none _)
          simp [hd']
        · have hcount := (readCount_closes v (d :: t)).bind
            (F := some ∘ fun x => (some x.1, x.2)) fun n r _ => .pure _ r
          refine Closes.congr (fun behind => ?_) hcount
          simp only [List.cons_append, hd', List.cons.injEq, hd, false_and, imp_self, implies_true]
    · refine Closes.congr (fun behind => ?_) (.pure (some min) (c :: r))
      simp [readMax, hc]

theorem readBounds_closes (v : Bool) (s : List Char) : Closes (readBounds v) s := by
  unfold readBounds
  apply ((readCount_closes v _).skip).bind
  intro min r hmin
  apply (readMax_closes v min r).bind
  intro max r hmax
  cases r with
  | nil => exact .of_none rfl
  | cons c r =>
    apply Closes.cons
    by_cases hc : c = '\x7d'
    · subst hc
      dsimp only
      split_ifs
      · exact ((dropLazyMark_closes _).after (.pure (Token.repetition min max) _)).skip
      · exact .of_none rfl
    · apply Closes.of_none
      simp [hc]

theorem readGroupName_closes (done s : List Char) : Closes (readGroupName done) s := by
  induction s generalizing done with
  | nil => exact .of_none rfl
  | cons c r ih =>
    apply Closes.cons
    simp only [readGroupName]
    split_ifs
    · exact .of_none rfl
    · exact .pure _ r
    · exact ih _
    · exact .of_none rfl

theorem setting_read_closes (on : Bool) (done : Setting) (s : List Char) :
    Closes (Setting.read on done) s := by
  induction s generalizing on done with
  | nil => exact .of_none rfl
  | cons c r ih =>
    by_cases hend : c = ':' ∨ c = ')'
    · refine Closes.congr (fun behind => ?_) (.pure done (c :: r))
      simp [Setting.read, hend]
    · by_cases hdash : c = '-'
      · subst hdash
        apply Closes.cons
        cases r with
        | nil => exact .of_none (by cases on <;> rfl)
        | cons d t =>
          by_cases hmore :
              (on && !((d :: t).head? == some ':' || (d :: t).head? == some ')')) = true
          · refine Closes.congr (fun behind => ?_) (ih false done)
            have hmore' : (on && !((d :: t ++ behind).head? == some ':' ||
              (d :: t ++ behind).head? == some ')')) = true := hmore
            rw [Setting.read, if_neg hend, if_pos rfl, if_pos hmore']
          · apply Closes.of_none
            rw [Setting.read, if_neg hend, if_pos rfl, if_neg hmore]
      · apply Closes.cons
        simp only [Setting.read, if_neg hend, if_neg hdash]
        apply Closes.const_bind
        intro flag
        split_ifs
        · exact .of_none rfl
        · exact ih _ _

theorem readSetting_closes (s : List Char) : Closes readSetting s := by
  unfold readSetting
  apply (setting_read_closes true [] s).bind
  intro setting r hsetting
  cases r with
  | nil => exact .of_none rfl
  | cons c r =>
    apply Closes.cons
    by_cases hc : c = ':'
    · subst hc
      exact .pure _ r
    · simp only
      split_ifs
      · exact .of_none rfl
      · exact .pure _ r

theorem readName_closes (s : List Char) :
    Closes (fun s =>
      (readGroupName [] s).map fun x => (Token.opening (.capture (some x.1)), x.2)) s := by
  simp only [Option.map_eq_bind]
  exact (readGroupName_closes [] s).bind fun name r _ => .pure _ r

/-- What follows the question mark that a group or a setting begins with. -/
theorem readGroupStart_closes (hmark : ∀ t, skip v ('?' :: t) = '?' :: t) (s : List Char) :
    Closes (fun s => readOpeningParen v ('?' :: s)) s := by
  cases s with
  | nil => exact .of_none (by simp [readOpeningParen, hmark, readSetting, Setting.read])
  | cons c r =>
    by_cases hangle : c = '<'
    · subst hangle
      apply Closes.cons
      cases r with
      | nil => exact .of_none (by simp [readOpeningParen, hmark, readGroupName])
      | cons d r =>
        by_cases hd : d = '=' ∨ d = '!'
        · apply Closes.of_none
          rcases hd with rfl | rfl <;> simp [readOpeningParen, hmark]
        · refine Closes.congr (fun behind => ?_) (readName_closes (d :: r))
          obtain ⟨heq, hbang⟩ := not_or.mp hd
          simp [readOpeningParen, hmark, heq, hbang]
    · by_cases hp : c = 'P'
      · subst hp
        apply Closes.cons
        have hflag : ∀ t, readSetting ('P' :: t) = none := fun t => rfl
        cases r with
        | nil => exact .of_none (by simp [readOpeningParen, hmark, hflag])
        | cons d r =>
          by_cases hd : d = '<'
          · subst hd
            apply Closes.cons
            simp only [readOpeningParen, hmark]
            exact readName_closes r
          · exact .of_none (by simp [readOpeningParen, hmark, hd, hflag])
      · by_cases hlook : c = '=' ∨ c = '!'
        · apply Closes.of_none
          rcases hlook with rfl | rfl <;> simp [readOpeningParen, hmark]
        · refine Closes.congr (fun behind => ?_) (readSetting_closes (c :: r))
          obtain ⟨heq, hbang⟩ := not_or.mp hlook
          simp [readOpeningParen, hmark, hangle, hp, heq, hbang]

theorem readOpeningParen_closes (v : Bool) (s : List Char) : Closes (readOpeningParen v) s := by
  apply Closes.of_skip (v := v) fun s => by simp only [readOpeningParen, skip_skip]
  cases hs : skip v s with
  | nil =>
    intro x rest h
    have hnil : readOpeningParen v [] = some (.opening (.capture none), []) := by
      simp [readOpeningParen]
    have hclosing : readOpeningParen v [')'] = some (.opening (.capture none), [')']) := by
      have hskip : skip v [')'] = [')'] := by
        cases v <;> simp [skip, dropBlanks, not_isBlank_closing]
      simp [readOpeningParen, hskip]
    obtain ⟨rfl, rfl⟩ := Prod.mk.inj (Option.some.inj (hnil.symm.trans h))
    exact ⟨List.suffix_refl _, _, hclosing, Or.inl rfl⟩
  | cons c r =>
    have hc : ∀ t, skip v (c :: t) = c :: t := skip_cons_of_skip hs
    by_cases hmark : c = '?'
    · subst hmark
      apply Closes.cons
      exact readGroupStart_closes hc r
    · refine Closes.congr (fun behind => ?_) (.pure (.opening (.capture none)) (c :: r))
      simp [readOpeningParen, hc, hmark]

theorem readToken_closes (flags : Flags) (s : List Char) : Closes (readToken flags) s := by
  cases s with
  | nil => exact .of_none rfl
  | cons c r =>
    apply Closes.cons
    simp only [readToken]
    split
    · exact readOpeningParen_closes flags.verbose r
    · exact .pure _ r
    · exact .pure _ r
    · exact (readClass_closes flags r).bind fun cls r _ => .pure _ r
    · exact (dropLazyMark_closes r).after (.pure _ _)
    · exact (dropLazyMark_closes r).after (.pure _ _)
    · exact (dropLazyMark_closes r).after (.pure _ _)
    · exact readBounds_closes flags.verbose r
    · apply (readEscape_closes flags.verbose r).bind
      intro atom r hatom
      simp only [Option.map_eq_bind]
      exact .const_bind _ fun piece => .pure _ r
    all_goals
      simp only [Option.map_eq_bind]
      exact .const_bind _ fun piece => .pure _ r

end LeaseBroker.Pattern
