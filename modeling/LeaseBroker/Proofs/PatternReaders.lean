import LeaseBroker.Pattern.Bracket
import Mathlib.Data.List.Infix

/-!
# A closing parenthesis behind a pattern

The readers of a pattern see a text from a spot to its end. If a closing parenthesis is put behind
the text, a reader that has succeeded still reads the same, and leaves the parenthesis. The one
exception is a comment that runs to the end of the text, which takes the parenthesis in. This is
shown for the readers of blanks, escapes and bracketed classes.
-/

set_option autoImplicit false

namespace LeaseBroker.Pattern

/-- Whether a comment mark stands in the last line, so that a comment may run to the end. -/
def Commented (s : List Char) : Prop :=
  ∃ front comment, s = front ++ '#' :: comment ∧ '\n' ∉ comment

/-- What is left of a text with a closing parenthesis behind it, if `rest` is left without it. -/
def LeftBehind (s rest rest' : List Char) : Prop :=
  rest' = rest ++ [')'] ∨ Commented s ∧ rest' = rest

/-- Whether a reader that succeeds on a text reads the same with a closing parenthesis behind. -/
def Closes {α : Type} (R : List Char → Option (α × List Char)) (s : List Char) : Prop :=
  ∀ x rest, R s = some (x, rest) →
    rest <:+ s ∧ ∃ rest', R (s ++ [')']) = some (x, rest') ∧ LeftBehind s rest rest'

variable {α β : Type} {s r t rest rest' : List Char} {c : Char} {v : Bool}

theorem Commented.of_suffix (h : Commented r) (hsuffix : r <:+ s) : Commented s := by
  obtain ⟨front, comment, rfl, hline⟩ := h
  obtain ⟨before, rfl⟩ := hsuffix
  exact ⟨before ++ front, comment, (List.append_assoc _ _ _).symm, hline⟩

theorem LeftBehind.of_suffix (h : LeftBehind r rest rest') (hsuffix : r <:+ s) :
    LeftBehind s rest rest' :=
  h.imp_right (And.imp_left fun hr => hr.of_suffix hsuffix)

namespace Closes
variable {R : List Char → Option (α × List Char)} {F : α × List Char → Option (β × List Char)}

theorem of_none (h : R s = none) : Closes R s := by
  intro x rest hR
  rw [h] at hR
  cases hR

theorem pure (x : α) (s : List Char) : Closes (fun s => some (x, s)) s := by
  intro y rest h
  obtain ⟨rfl, rfl⟩ := Prod.mk.inj (Option.some.inj h)
  exact ⟨List.suffix_refl _, _, rfl, Or.inl rfl⟩

theorem cons (h : Closes (fun r => R (c :: r)) r) : Closes R (c :: r) := by
  intro x rest hR
  obtain ⟨hsuffix, rest', hread, hleft⟩ := h x rest hR
  have hr : r <:+ c :: r := List.suffix_cons c r
  exact ⟨hsuffix.trans hr, rest', hread, hleft.of_suffix hr⟩

theorem congr {S : List Char → Option (α × List Char)}
    (h : ∀ behind, R (s ++ behind) = S (s ++ behind)) (hS : Closes S s) : Closes R s := by
  intro x rest hR
  have hs : R s = S s := by simpa using h []
  rw [h]
  exact hS x rest (hs.symm.trans hR)

/-- One reader after another. A parenthesis that the first one has taken in is not seen by the
second one. -/
theorem bind (hR : Closes R s) (hF : ∀ x r, R s = some (x, r) → Closes (fun r => F (x, r)) r) :
    Closes (fun s => (R s).bind F) s := by
  intro y rest h
  obtain ⟨⟨x, r⟩, hfirst, hsecond⟩ := Option.bind_eq_some_iff.mp h
  obtain ⟨hr, r', hfirst', hleft⟩ := hR x r hfirst
  obtain ⟨hrest, rest', hsecond', hleft'⟩ := hF x r hfirst y rest hsecond
  refine ⟨hrest.trans hr, ?_⟩
  rcases hleft with rfl | ⟨hcomment, rfl⟩
  · exact ⟨rest', Option.bind_eq_some_iff.mpr ⟨_, hfirst', hsecond'⟩, hleft'.of_suffix hr⟩
  · exact ⟨rest, Option.bind_eq_some_iff.mpr ⟨_, hfirst', hsecond⟩, Or.inr ⟨hcomment, rfl⟩⟩

theorem const_bind {γ : Type} {G : γ → List Char → Option (α × List Char)} (o : Option γ)
    (h : ∀ y, Closes (G y) s) : Closes (fun s => o.bind fun y => G y s) s := by
  cases o with
  | none => exact of_none rfl
  | some y => exact h y

theorem after {f : List Char → List Char} (hf : Closes (fun s => some ((), f s)) s)
    (h : Closes R (f s)) : Closes (fun s => R (f s)) s :=
  hf.bind (F := fun y => R y.2) fun _ r hr => by
    obtain ⟨-, rfl⟩ := Prod.mk.inj (Option.some.inj hr)
    exact h

end Closes

/-! ### Blanks -/

theorem not_isBlank_closing : isBlank ')' = false := by decide

theorem dropBlanks_suffix (inComment : Bool) (s : List Char) : dropBlanks inComment s <:+ s := by
  induction s generalizing inComment with
  | nil => exact List.suffix_refl []
  | cons c r ih =>
    have hr : r <:+ c :: r := List.suffix_cons c r
    rw [dropBlanks]
    split
    · exact (ih _).trans hr
    · split
      · exact (ih _).trans hr
      · split
        · exact (ih _).trans hr
        · exact List.suffix_refl _

/-- Whether a comment runs to the end of a text, which may itself begin inside a comment. -/
def CommentedIn (inComment : Bool) (s : List Char) : Prop :=
  Commented s ∨ inComment = true ∧ '\n' ∉ s

namespace CommentedIn

theorem cons {inComment : Bool} (h : CommentedIn false r) : CommentedIn inComment (c :: r) := by
  rcases h with h | ⟨h, -⟩
  · exact Or.inl (h.of_suffix (List.suffix_cons c r))
  · cases h

theorem mark {inComment : Bool} (h : CommentedIn true r) : CommentedIn inComment ('#' :: r) := by
  rcases h with h | ⟨-, h⟩
  · exact Or.inl (h.of_suffix (List.suffix_cons '#' r))
  · exact Or.inl ⟨[], r, rfl, h⟩

theorem comment (h : CommentedIn (c ≠ '\n') r) : CommentedIn true (c :: r) := by
  rcases h with h | ⟨hc, h⟩
  · exact Or.inl (h.of_suffix (List.suffix_cons c r))
  · exact Or.inr ⟨rfl, List.not_mem_cons_of_ne_of_not_mem (Ne.symm (by simpa using hc)) h⟩

theorem commented (h : CommentedIn false s) : Commented s :=
  h.resolve_right fun hopen => Bool.false_ne_true hopen.1

end CommentedIn

/-- A parenthesis behind the blanks is left unless it belongs to a comment. -/
theorem dropBlanks_closing (inComment : Bool) (s : List Char) :
    dropBlanks inComment (s ++ [')']) = dropBlanks inComment s ++ [')'] ∨
      CommentedIn inComment s ∧ dropBlanks inComment (s ++ [')']) = dropBlanks inComment s := by
  induction s generalizing inComment with
  | nil =>
    cases inComment with
    | true => exact Or.inr ⟨Or.inr ⟨rfl, List.not_mem_nil⟩, rfl⟩
    | false =>
      apply Or.inl
      simp [dropBlanks, not_isBlank_closing]
  | cons c r ih =>
    rw [List.cons_append, dropBlanks, dropBlanks]
    split_ifs with hin hblank hmark
    · subst hin
      exact (ih _).imp_right (And.imp_left CommentedIn.comment)
    · exact (ih _).imp_right (And.imp_left CommentedIn.cons)
    · subst hmark
      exact (ih _).imp_right (And.imp_left CommentedIn.mark)
    · exact Or.inl rfl

theorem skip_closes (v : Bool) (s : List Char) : Closes (fun s => some ((), skip v s)) s := by
  intro x rest h
  obtain ⟨-, rfl⟩ := Prod.mk.inj (Option.some.inj h)
  cases v with
  | false => exact ⟨List.suffix_refl s, _, rfl, Or.inl rfl⟩
  | true =>
    refine ⟨dropBlanks_suffix false s, _, rfl, ?_⟩
    exact (dropBlanks_closing false s).imp_right (And.imp_left CommentedIn.commented)

theorem Closes.skip {R : List Char → Option (α × List Char)} (h : Closes R (skip v s)) :
    Closes (fun s => R (Pattern.skip v s)) s :=
  (skip_closes v s).after h

theorem Closes.of_skip {R : List Char → Option (α × List Char)}
    (hskip : ∀ s, R (Pattern.skip v s) = R s) (h : Closes R (Pattern.skip v s)) : Closes R s := by
  rw [← funext hskip]
  exact h.skip

theorem Closes.pure_skip (x : α) (v : Bool) (s : List Char) :
    Closes (fun s => some (x, Pattern.skip v s)) s :=
  Closes.skip (Closes.pure x _)

/-- A character that blanks end at stays where it is, whatever follows it. -/
theorem dropBlanks_eq_cons {inComment : Bool} (h : dropBlanks inComment s = c :: r) :
    (isBlank c = false ∧ c ≠ '#') ∧
      ∀ behind, dropBlanks inComment (s ++ behind) = c :: (r ++ behind) := by
  induction s generalizing inComment with
  | nil => cases h
  | cons d t ih =>
    rw [dropBlanks] at h
    simp only [List.cons_append, dropBlanks]
    split_ifs at h ⊢ with hin hblank hmark
    · exact ih h
    · exact ih h
    · exact ih h
    · obtain ⟨rfl, rfl⟩ := List.cons.inj h
      exact ⟨⟨Bool.eq_false_iff.mpr hblank, hmark⟩, fun _ => rfl⟩

theorem skip_append_of_cons (h : skip v s = c :: r) (behind : List Char) :
    skip v (s ++ behind) = c :: (r ++ behind) := by
  cases v with
  | false =>
    have hs : s = c :: r := h
    rw [hs]
    rfl
  | true => exact (dropBlanks_eq_cons h).2 behind

theorem skip_cons_of_skip (h : skip v s = c :: r) (t : List Char) : skip v (c :: t) = c :: t := by
  cases v with
  | false => rfl
  | true =>
    obtain ⟨hblank, hmark⟩ := (dropBlanks_eq_cons h).1
    simp [skip, dropBlanks, hblank, hmark]

@[simp]
theorem skip_nil (v : Bool) : skip v [] = [] := by
  cases v <;> rfl

theorem skip_skip (v : Bool) (s : List Char) : skip v (skip v s) = skip v s := by
  cases h : skip v s with
  | nil => exact skip_nil v
  | cons c r => exact skip_cons_of_skip h r

/-! ### Escapes -/

theorem readDigits_closes (v : Bool) (value count : Nat) (s : List Char) :
    Closes (readDigits v value count) s := by
  induction count generalizing value s with
  | zero => exact .pure value s
  | succ count ih =>
    cases s with
    | nil => exact .of_none rfl
    | cons c r => exact .cons (.const_bind _ fun d => (ih _ _).skip)

theorem readDigits_cons_closes {count : Nat} (hcount : 0 < count) (v : Bool) (value : Nat)
    (c : Char) (r : List Char) : Closes (fun r => readDigits v value count (c :: r)) r := by
  obtain ⟨count, rfl⟩ := Nat.exists_eq_add_of_lt hcount
  exact .const_bind _ fun d => (readDigits_closes v _ _ _).skip

theorem readBraced_closes (v inComment : Bool) (done s : List Char) :
    Closes (readBraced v inComment done) s := by
  induction s generalizing inComment done with
  | nil => exact .of_none rfl
  | cons c r ih =>
    apply Closes.cons
    simp only [readBraced]
    split_ifs
    · exact ih _ _
    · exact ih _ _
    · exact ih _ _
    · exact .pure done r
    · exact ih _ _

theorem readHex_closes (v : Bool) (kind : Char) (s : List Char) : Closes (readHex v kind) s := by
  apply Closes.of_skip (v := v) fun s => by simp only [readHex, skip_skip]
  cases hs : skip v s with
  | nil =>
    apply Closes.of_none
    cases v <;> rfl
  | cons c r =>
    apply Closes.cons
    by_cases hc : c = '\x7b'
    · subst hc
      simp only [readHex, skip_cons_of_skip hs]
      apply (readBraced_closes v false [] r).bind
      intro digits r hdigits
      dsimp only
      apply Closes.const_bind
      intro values
      split
      · exact .of_none rfl
      · exact .const_bind _ fun c => .pure_skip _ v r
    · simp only [readHex, skip_cons_of_skip hs]
      have hcount : 0 < if kind = 'x' then 2 else if kind = 'u' then 4 else 8 := by
        split_ifs <;> decide
      simp only [List.cons.injEq, hc, false_and, imp_self, implies_true]
      apply (readDigits_cons_closes hcount v 0 c r).bind
      intro n r hn
      exact .const_bind _ fun c => .pure _ r

theorem readProperty_closes (v negated : Bool) (s : List Char) :
    Closes (readProperty v negated) s := by
  apply Closes.of_skip (v := v) fun s => by simp only [readProperty, skip_skip]
  cases hs : skip v s with
  | nil =>
    apply Closes.of_none
    cases v <;> rfl
  | cons c r =>
    apply Closes.cons
    simp only [readProperty, skip_cons_of_skip hs]
    by_cases hc : c = '\x7b'
    · subst hc
      apply (readBraced_closes v false [] r).bind
      intro text r htext
      exact .pure _ r
    · simp only
      split
      · exact .of_none rfl
      · exact .pure_skip _ v r

theorem readEdgeName_eq_cons {inComment : Bool} {done name : List Char}
    (h : readEdgeName v inComment done s = (name, c :: r)) :
    c :: r <:+ s ∧
      ∀ behind, readEdgeName v inComment done (s ++ behind) = (name, c :: (r ++ behind)) := by
  induction s generalizing inComment done with
  | nil => cases (Prod.mk.inj h).2
  | cons d t ih =>
    have ht : t <:+ d :: t := List.suffix_cons d t
    rw [readEdgeName] at h
    simp only [List.cons_append, readEdgeName]
    split_ifs at h ⊢
    · exact (ih h).imp_left (·.trans ht)
    · exact (ih h).imp_left (·.trans ht)
    · exact (ih h).imp_left (·.trans ht)
    · exact (ih h).imp_left (·.trans ht)
    · obtain ⟨rfl, heq⟩ := Prod.mk.inj h
      obtain ⟨rfl, rfl⟩ := List.cons.inj heq
      exact ⟨List.suffix_refl _, fun _ => rfl⟩

theorem readNamedEdge_closes (hr : skip v r = c :: t) (hc : (c.isAlpha || c = '-') = true) :
    Closes (fun r => readWordEdge v ('\x7b' :: r)) r := by
  intro x rest h
  cases hname : readEdgeName v false [] r with
  | mk name left =>
    simp only [readWordEdge, hr, if_pos hc, hname] at h
    cases left with
    | nil => cases h
    | cons d left =>
      by_cases hd : d = '\x7d'
      · subst hd
        obtain ⟨hsuffix, hbehind⟩ := readEdgeName_eq_cons hname
        obtain ⟨a, ha, hx⟩ := Option.map_eq_some_iff.mp h
        obtain ⟨rfl, rfl⟩ := Prod.mk.inj hx
        refine ⟨(List.suffix_cons _ _).trans hsuffix, _, ?_, Or.inl rfl⟩
        simp only [readWordEdge, skip_append_of_cons hr, if_pos hc, hbehind, ha, Option.map_some]
      · simp [hd] at h

theorem readWordEdge_closes (v : Bool) (s : List Char) : Closes (readWordEdge v) s := by
  cases s with
  | nil => exact fun x rest h => by simp_all [readWordEdge, LeftBehind]
  | cons c r =>
    by_cases hc : c = '\x7b'
    · subst hc
      cases hr : skip v r with
      | nil =>
        apply Closes.of_none
        simp only [readWordEdge, hr]
      | cons d t =>
        by_cases hd : (d.isAlpha || d = '-') = true
        · exact .cons (readNamedEdge_closes hr hd)
        · refine Closes.congr (fun behind => ?_) (.pure (.assertion .wordEdge) _)
          simp only [readWordEdge, List.cons_append, skip_append_of_cons hr, if_neg hd]
    · refine Closes.congr (fun behind => ?_) (.pure (.assertion .wordEdge) _)
      simp [readWordEdge, hc]

theorem readEscape_closes (v : Bool) (s : List Char) : Closes (readEscape v) s := by
  cases s with
  | nil => exact .of_none rfl
  | cons c r =>
    apply Closes.cons
    simp only [readEscape]
    split
    · exact readHex_closes v c r
    · split
      · exact readProperty_closes v _ r
      · split
        · exact .pure _ r
        · split
          all_goals first | exact .pure _ r | exact readWordEdge_closes v r | exact .of_none rfl

/-! ### Bracketed classes -/

theorem readMember_closes (flags : Flags) (s : List Char) : Closes (readMember flags) s := by
  cases s with
  | nil => exact .of_none rfl
  | cons c r =>
    apply Closes.cons
    simp only [readMember]
    split
    · exact readEscape_closes flags.verbose r
    · exact .pure _ r

/-- Behind a text of blanks and comment marks only, anything may be seen; behind any other text
nothing new is. -/
theorem peekPast_append (inComment : Bool) (otherwise otherwise' : Option Char)
    (s behind : List Char) :
    peekPast inComment otherwise (s ++ behind) = peekPast inComment otherwise' s ∨
      (∀ c ∈ s, isBlank c = true ∨ c = '#') ∧ peekPast inComment otherwise' s = otherwise' := by
  induction s generalizing inComment with
  | nil => exact Or.inr ⟨fun c hc => absurd hc List.not_mem_nil, rfl⟩
  | cons c r ih =>
    rw [List.cons_append, peekPast, peekPast]
    split_ifs with hblank hmark
    · refine (ih inComment).imp_right (And.imp_left fun hr => ?_)
      exact List.forall_mem_cons.mpr ⟨Or.inl hblank, hr⟩
    · refine (ih true).imp_right (And.imp_left fun hr => ?_)
      exact List.forall_mem_cons.mpr ⟨Or.inr (by simp_all), hr⟩
    · exact Or.inl rfl

theorem dropBlanks_eq_nil {inComment : Bool} (h : ∀ c ∈ s, isBlank c = true ∨ c = '#') :
    dropBlanks inComment s = [] := by
  induction s generalizing inComment with
  | nil => rfl
  | cons c r ih =>
    obtain ⟨hc, hr⟩ := List.forall_mem_cons.mp h
    rw [dropBlanks]
    split_ifs with hin hblank hmark
    · exact ih hr
    · exact ih hr
    · exact ih hr
    · exact absurd hc (not_or.mpr ⟨hblank, hmark⟩)

theorem not_isBlank_bracket : isBlank ']' = false := by decide

theorem not_isBlank_dash : isBlank '-' = false := by decide

/-- What is seen behind a dash stays the same, except where only blanks follow it, and then there is
neither a bracket nor a dash. -/
theorem peek_append (v : Bool) (s behind : List Char) :
    peek v (s ++ behind) = peek v s ∨
      skip v s = [] ∧ peek v s ≠ some ']' ∧ peek v s ≠ some '-' := by
  cases s with
  | nil => exact Or.inr (by cases v <;> simp [skip, dropBlanks, peek, peekPast])
  | cons c r =>
    cases v with
    | false => exact Or.inl rfl
    | true =>
      refine (peekPast_append false (some c) (some c) (c :: r) behind).imp_right ?_
      rintro ⟨hblank, hseen⟩
      have hc : isBlank c = true ∨ c = '#' := hblank c List.mem_cons_self
      refine ⟨dropBlanks_eq_nil hblank, ?_, ?_⟩
      · intro h
        obtain rfl := Option.some.inj (hseen.symm.trans h)
        simp [not_isBlank_bracket] at hc
      · intro h
        obtain rfl := Option.some.inj (hseen.symm.trans h)
        simp [not_isBlank_dash] at hc

theorem readRange_closes (flags : Flags) (s : List Char) : Closes (readRange flags) s := by
  unfold readRange
  apply (readMember_closes flags s).bind
  intro first rest hfirst
  apply Closes.of_skip (v := flags.verbose) fun s => by simp only [skip_skip]
  cases hrest : skip flags.verbose rest with
  | nil =>
    apply Closes.of_none
    cases flags.verbose <;> rfl
  | cons c after =>
    have hc : ∀ t, skip flags.verbose (c :: t) = c :: t := skip_cons_of_skip hrest
    have hmember : Closes (fun s => (atomSet? flags first).bind fun set => some (set, s))
        (c :: after) :=
      .const_bind _ fun set => .pure set _
    by_cases hdash : c = '-'
    · subst hdash
      by_cases hstop :
          (peek flags.verbose after == some ']' || peek flags.verbose after == some '-') = true
      · refine hmember.congr fun behind => ?_
        have hpeek : peek flags.verbose (after ++ behind) = peek flags.verbose after := by
          refine (peek_append flags.verbose after behind).resolve_right ?_
          rintro ⟨-, hbracket, hdash⟩
          simp [hbracket, hdash] at hstop
        simp [hc, hpeek, hstop]
      · -- Where only blanks follow the dash nothing is read, whatever is seen there.
        by_cases hafter : skip flags.verbose after = []
        · apply Closes.of_none
          simp [hc, hstop, hafter, readMember]
        · have hpeek : peek flags.verbose (after ++ [')']) = peek flags.verbose after :=
            (peek_append flags.verbose after [')']).resolve_right fun h => hafter h.1
          apply Closes.cons
          intro x rest' h
          simp only [hc, hpeek, ne_eq, not_true_eq_false, decide_false, Bool.false_or, hstop] at h ⊢
          refine (readMember_closes flags _).skip.bind ?_ x rest' h
          intro last r hlast
          dsimp only
          split
          · refine .const_bind _ fun lo => .const_bind _ fun hi => ?_
            split
            · exact .pure _ r
            · exact .of_none rfl
          · exact .of_none rfl
    · refine hmember.congr fun behind => ?_
      simp [hc, hdash]

theorem dropWhile_append_of_ne_nil {α : Type} {p : α → Bool} {xs : List α}
    (h : xs.dropWhile p ≠ []) (ys : List α) :
    (xs ++ ys).takeWhile p = xs.takeWhile p ∧ (xs ++ ys).dropWhile p = xs.dropWhile p ++ ys := by
  have hlength : (xs.takeWhile p).length ≠ xs.length := by
    intro hlength
    apply h
    have hboth := congrArg List.length (List.takeWhile_append_dropWhile (p := p) (l := xs))
    rw [List.length_append, hlength] at hboth
    exact List.eq_nil_of_length_eq_zero (by omega)
  rw [List.takeWhile_append, if_neg hlength, List.dropWhile_append, if_neg (by simpa using h)]
  exact ⟨rfl, rfl⟩

theorem readClassName_append (negated : Bool) (s : List Char) :
    readClassName negated (s ++ [')']) =
      (readClassName negated s).map fun x => (x.1, x.2.1, x.2.2 ++ [')']) := by
  by_cases hnil : s.dropWhile (· ≠ ':') = []
  · have hnil' : (s ++ [')']).dropWhile (· ≠ ':') = [] := by
      rw [List.dropWhile_append, hnil]
      rfl
    simp only [readClassName, hnil, hnil', Option.map_none]
  · obtain ⟨htake, hdrop⟩ := dropWhile_append_of_ne_nil hnil [')']
    simp only [readClassName, htake, hdrop]
    match s.dropWhile (· ≠ ':') with
    | [] => rfl
    | [c] => simp
    | c :: d :: left =>
      by_cases hmarks : c = ':' ∧ d = ']'
      · obtain ⟨rfl, rfl⟩ := hmarks
        simp [Function.comp_def]
      · have hmarks' : c = ':' → d ≠ ']' := fun hc hd => hmarks ⟨hc, hd⟩
        simp only [List.cons_append]
        grind

theorem readAsciiClass_append (s : List Char) :
    readAsciiClass (s ++ [')']) = (readAsciiClass s).map fun x => (x.1, x.2.1, x.2.2 ++ [')']) := by
  cases s with
  | nil => rfl
  | cons c r =>
    by_cases hc : c = ':'
    · subst hc
      cases r with
      | nil => rfl
      | cons d t =>
        by_cases hd : d = '^'
        · subst hd
          exact readClassName_append true t
        · simp only [readAsciiClass, List.cons_append, List.cons.injEq, hd, false_and, imp_self,
            implies_true]
          exact readClassName_append false (d :: t)
    · simp [readAsciiClass, hc]

theorem readClassName_suffix {negated negated' : Bool} {set : CharSet}
    (h : readClassName negated s = some (negated', set, rest)) : rest <:+ s := by
  unfold readClassName at h
  split at h
  · rename_i left hdrop
    obtain ⟨set', -, hset⟩ := Option.map_eq_some_iff.mp h
    obtain rfl : left = rest := congrArg (fun x => x.2.2) hset
    have hleft : left <:+ ':' :: ']' :: left := List.suffix_append [':', ']'] left
    exact hleft.trans (hdrop ▸ List.dropWhile_suffix _)
  · cases h

theorem readAsciiClass_suffix {negated : Bool} {set : CharSet}
    (h : readAsciiClass s = some (negated, set, rest)) : rest <:+ s := by
  unfold readAsciiClass at h
  split at h
  · exact (readClassName_suffix h).trans (List.suffix_append [':', '^'] _)
  · exact (readClassName_suffix h).trans (List.suffix_cons _ _)
  · cases h

theorem readDashes_closes (v inComment : Bool) (side : Side) (s : List Char) :
    Closes (readDashes v inComment side) s := by
  induction s generalizing inComment side with
  | nil => exact .of_none rfl
  | cons c r ih =>
    by_cases hstop : ((v && inComment) || (v && isBlank c) || (v && c = '#') || c = '-') = true
    · apply Closes.cons
      simp only [readDashes]
      split_ifs
      · exact ih _ _
      · exact ih _ _
      · exact ih _ _
      · exact ih _ _
      · simp_all
    · refine Closes.congr (fun behind => ?_) (.pure side (c :: r))
      cases v <;> simp_all [readDashes]

/-- What a reader gives besides the rest, in one. -/
def regroup {γ : Type} (x : α × β × γ) : (α × β) × γ := ((x.1, x.2.1), x.2.2)

theorem Closes.bind_regroup {γ : Type} {R : List Char → Option (α × β × List Char)}
    {F : α × β × List Char → Option (γ × List Char)} (hR : Closes (fun s => (R s).map regroup) s)
    (hF : ∀ x y r, R s = some (x, y, r) → Closes (fun r => F (x, y, r)) r) :
    Closes (fun s => (R s).bind F) s := by
  have heq : (fun s => (R s).bind F) =
      fun s => ((R s).map regroup).bind fun z => F (z.1.1, z.1.2, z.2) := by
    funext s
    rw [Option.bind_map]
    rfl
  rw [heq]
  refine hR.bind fun z r hz => ?_
  obtain ⟨x, hx, hxz⟩ := Option.map_eq_some_iff.mp hz
  obtain ⟨rfl, rfl⟩ := Prod.mk.inj hxz
  exact hF _ _ _ hx

theorem readFirst_closes (flags : Flags) (negated : Bool) (s : List Char) :
    Closes (fun s => (readFirst flags negated s).map regroup) s := by
  simp only [readFirst, Option.map_eq_bind, Option.bind_eq_bind, Option.bind_assoc]
  apply (readDashes_closes flags.verbose false {} s).bind
  intro side r hdashes
  cases r with
  | nil =>
    intro x rest h
    obtain ⟨rfl, rfl⟩ := Prod.mk.inj (Option.some.inj h)
    exact ⟨List.suffix_refl _, _, rfl, Or.inl rfl⟩
  | cons c t =>
    by_cases hfirst : c = ']' ∧ side.count = 0
    · obtain ⟨rfl, hcount⟩ := hfirst
      apply Closes.cons
      simp only [hcount, if_true]
      apply Closes.of_skip (v := flags.verbose) fun s => by simp only [skip_skip]
      cases ht : skip flags.verbose t with
      | nil =>
        apply Closes.of_none
        simp
      | cons d t =>
        refine Closes.congr (fun behind => ?_)
          (.pure (⟨negated, none⟩, side.push ⟨.singleton ']', 0⟩) _)
        simp [skip_cons_of_skip ht, regroup]
    · refine Closes.congr (fun behind => ?_) (.pure (⟨negated, none⟩, side) _)
      by_cases hc : c = ']'
      · have hcount : side.count ≠ 0 := fun hcount => hfirst ⟨hc, hcount⟩
        simp [hc, hcount, regroup]
      · simp [hc, regroup]

theorem readOpening_closes (flags : Flags) (s : List Char) :
    Closes (fun s => (readOpening flags s).map regroup) s := by
  apply Closes.of_skip (v := flags.verbose) fun s => by simp only [readOpening, skip_skip]
  cases hs : skip flags.verbose s with
  | nil =>
    apply Closes.of_none
    simp [readOpening, readFirst, readDashes]
  | cons c r =>
    by_cases hc : c = '^'
    · subst hc
      apply Closes.cons
      simp only [readOpening, skip_cons_of_skip hs]
      exact readFirst_closes flags true r
    · refine Closes.congr (fun behind => ?_) (readFirst_closes flags false (c :: r))
      simp [readOpening, skip_cons_of_skip hs, hc]

theorem next?_open_closes (flags : Flags) (reader : ClassReader) (s : List Char) :
    Closes (fun s => reader.next? flags ('[' :: s)) s := by
  intro x rest h
  cases hname : readAsciiClass s with
  | none =>
    have hname' : readAsciiClass (s ++ [')']) = none := by
      rw [readAsciiClass_append, hname, Option.map_none]
    simp only [ClassReader.next?, hname, hname'] at h ⊢
    exact (readOpening_closes flags s).bind_regroup (fun _ _ r _ => .pure _ r) x rest h
  | some known =>
    obtain ⟨negated, set, left⟩ := known
    have hname' : readAsciiClass (s ++ [')']) = some (negated, set, left ++ [')']) := by
      rw [readAsciiClass_append, hname, Option.map_some]
    simp only [ClassReader.next?, hname, hname'] at h ⊢
    obtain ⟨set', hset, hx⟩ := Option.bind_eq_some_iff.mp h
    obtain ⟨rfl, rfl⟩ := Prod.mk.inj (Option.some.inj hx)
    refine ⟨readAsciiClass_suffix hname, _, ?_, Or.inl rfl⟩
    rw [hset]
    rfl

/-- Whether a character begins a member or a range: it opens or closes no bracket and makes no
operator with the next one. -/
def BeginsMember (c : Char) (next : Option Char) : Prop :=
  c ≠ '[' ∧ c ≠ ']' ∧ (next = some c → c ≠ '&' ∧ c ≠ '-' ∧ c ≠ '~')

theorem next?_eq_readRange {flags : Flags} {reader : ClassReader} (h : BeginsMember c r.head?) :
    reader.next? flags (c :: r) =
      (readRange flags (c :: r)).bind fun x => some (.inr (reader.push x.1), x.2) := by
  obtain ⟨hopen, hclose, hop⟩ := h
  unfold ClassReader.next?
  split
  all_goals simp_all

theorem BeginsMember.closing (h : BeginsMember c r.head?) : BeginsMember c (r ++ [')']).head? := by
  cases r with
  | nil =>
    refine ⟨h.1, h.2.1, fun hhead => ?_⟩
    obtain rfl : ')' = c := Option.some.inj hhead
    decide
  | cons d r => exact h

theorem next?_member_closes {flags : Flags} {reader : ClassReader} (h : BeginsMember c r.head?) :
    Closes (reader.next? flags) (c :: r) := by
  intro x rest hread
  rw [List.cons_append, next?_eq_readRange h.closing]
  rw [next?_eq_readRange h] at hread
  exact (readRange_closes flags (c :: r)).bind
    (F := fun y => some (.inr (reader.push y.1), y.2)) (fun _ t _ => .pure _ t) x rest hread

theorem next?_closes (flags : Flags) (reader : ClassReader) (s : List Char) :
    Closes (reader.next? flags) s := by
  cases s with
  | nil => exact .of_none rfl
  | cons c r =>
    by_cases hopen : c = '['
    · subst hopen
      exact .cons (next?_open_closes flags reader r)
    · by_cases hclose : c = ']'
      · subst hclose
        apply Closes.cons
        simp only [ClassReader.next?, Option.map_eq_bind]
        exact .const_bind _ fun closed => .pure closed r
      · by_cases hop : r.head? = some c ∧ (c = '&' ∨ c = '-' ∨ c = '~')
        · obtain ⟨hr, hc⟩ := hop
          obtain ⟨t, rfl⟩ : ∃ t, r = c :: t := ⟨r.tail, List.eq_cons_of_mem_head? hr⟩
          apply Closes.cons
          apply Closes.cons
          rcases hc with rfl | rfl | rfl
          all_goals exact .pure _ t
        · refine next?_member_closes ⟨hopen, hclose, fun hr => ?_⟩
          simpa [hr] using hop

theorem run_closes (flags : Flags) (r : ClassReader) (s : List Char) :
    Closes (r.run flags) s := by
  induction hn : s.length using Nat.strong_induction_on generalizing r s with
  | _ n ih =>
    intro done rest h
    rw [ClassReader.run] at h
    cases hnext : r.next? flags (skip flags.verbose s) with
    | none =>
      rw [hnext] at h
      cases h
    | some result =>
      obtain ⟨hsuffix, left, hnext', hleft⟩ := (next?_closes flags r _).skip _ _ hnext
      dsimp only at hnext'
      rw [ClassReader.run, hnext']
      rw [hnext] at h
      match result with
      | (.inl done', rest') =>
        obtain ⟨rfl, rfl⟩ := Prod.mk.inj (Option.some.inj h)
        exact ⟨hsuffix, _, rfl, hleft⟩
      | (.inr r', rest') =>
        dsimp only at h ⊢
        split at h
        · rename_i hlt
          have hrun := ih _ (hn ▸ hlt) r' rest' rfl
          rcases hleft with rfl | ⟨hcomment, rfl⟩
          · obtain ⟨hrest, rest'', hrun', hleft'⟩ := hrun done rest h
            rw [if_pos (by simpa using hlt)]
            exact ⟨hrest.trans hsuffix, rest'', hrun', hleft'.of_suffix hsuffix⟩
          · rw [if_pos (by simp; omega)]
            exact ⟨(hrun done rest h).1.trans hsuffix, rest, h, Or.inr ⟨hcomment, rfl⟩⟩
        · cases h

theorem readClass_closes (flags : Flags) (s : List Char) : Closes (readClass flags) s :=
  (readOpening_closes flags s).bind_regroup fun _ _ r _ => run_closes flags _ r

end LeaseBroker.Pattern
