import LeaseBroker.Json.Printer
import LeaseBroker.Json.Reader
import Mathlib.Data.List.Basic
import Mathlib.Data.List.TakeWhile
import Mathlib.Tactic.IntervalCases

/-!
# What the JSON reader accepts

The texts of a JSON value, whose numbers and strings stand as they are printed and whose parts may
have blanks between them, are a relation of their own. The reader reads each of them as that value
and stops where it ends.
-/

set_option autoImplicit false

namespace LeaseBroker

theorem Decimal.ofDigits_toDigits (n : Nat) : Decimal.ofDigits (Nat.toDigits 10 n) = n := by
  have h := Nat.ofDigitChars_toDigits (n := n) (show 1 < 10 by decide) (show 10 ≤ 10 by decide)
  simpa [Nat.ofDigitChars_eq_foldl, Decimal.ofDigits, Nat.mul_comm] using h

namespace Json

/-! ## Digits -/

theorem isDigit_of_mem_toDigits {n : Nat} {c : Char} (h : c ∈ Nat.toDigits 10 n) :
    c.isDigit = true :=
  Nat.isDigit_of_mem_toDigits (by decide) (by decide) h

/-- Only zero begins with a zero. -/
theorem head_toDigits_ne_zero {n : Nat} (h : 1 < (Nat.toDigits 10 n).length) :
    (Nat.toDigits 10 n).head? ≠ some '0' := by
  induction n using Nat.strong_induction_on with
  | _ n ih =>
    have hn : 10 ≤ n := by
      by_contra hlt
      rw [Nat.toDigits_of_lt_base (by omega)] at h
      simp at h
    rw [Nat.toDigits_of_base_le (by decide) hn,
      List.head?_append_of_ne_nil _ Nat.toDigits_ne_nil]
    by_cases hten : 10 ≤ n / 10
    · refine ih (n / 10) (by omega) ?_
      rw [Nat.toDigits_of_base_le (by decide) hten, List.length_append]
      have := Nat.length_toDigits_pos (b := 10) (n := n / 10 / 10)
      simp only [List.length_singleton]
      omega
    · have hpos : 1 ≤ n / 10 := by omega
      rw [Nat.toDigits_of_lt_base (by omega)]
      generalize n / 10 = k at hten hpos
      interval_cases k <;> decide

theorem takeWhile_toDigits {n : Nat} {rest : List Char} (h : ∀ c ∈ rest.head?, c.isDigit = false) :
    (Nat.toDigits 10 n ++ rest).takeWhile Char.isDigit = Nat.toDigits 10 n := by
  rw [List.takeWhile_append_of_pos fun c hc => isDigit_of_mem_toDigits hc]
  cases rest with
  | nil => simp
  | cons c rest => simp [List.takeWhile, h c rfl]

theorem dropWhile_toDigits {n : Nat} {rest : List Char} (h : ∀ c ∈ rest.head?, c.isDigit = false) :
    (Nat.toDigits 10 n ++ rest).dropWhile Char.isDigit = rest := by
  rw [List.dropWhile_append_of_pos fun c hc => isDigit_of_mem_toDigits hc]
  cases rest with
  | nil => rfl
  | cons c rest => simp [List.dropWhile, h c rfl]

theorem toDigits_append_ne_cons {n : Nat} {rest t : List Char} {c : Char}
    (hc : c.isDigit = false) : Nat.toDigits 10 n ++ rest ≠ c :: t := by
  intro h
  have hmem : c ∈ Nat.toDigits 10 n := by
    cases hd : Nat.toDigits 10 n with
    | nil => exact absurd hd Nat.toDigits_ne_nil
    | cons d ds =>
      rw [hd, List.cons_append, List.cons.injEq] at h
      simp [h.1]
  rw [isDigit_of_mem_toDigits hmem] at hc
  exact Bool.noConfusion hc

theorem toDigits_wellFormed (n : Nat) :
    ((Nat.toDigits 10 n).isEmpty || decide ((Nat.toDigits 10 n).length > 1) &&
      (Nat.toDigits 10 n).head? == some '0') = false := by
  have hne : (Nat.toDigits 10 n).isEmpty = false := by simp
  by_cases h : 1 < (Nat.toDigits 10 n).length
  · simpa [hne] using fun _ => head_toDigits_ne_zero h
  · simp [hne, h]

/-! ## Numbers -/

/-- Whether a number may end in front of a text. -/
def EndsNumber (rest : List Char) : Prop :=
  ∀ c ∈ rest.head?, ¬(c.isDigit = true ∨ c = '.' ∨ c = 'e' ∨ c = 'E')

theorem EndsNumber.not_digit {rest : List Char} (h : EndsNumber rest) :
    ∀ c ∈ rest.head?, c.isDigit = false := by
  intro c hc
  simp only [Bool.eq_false_iff]
  exact fun hd => h c hc (.inl hd)

/-- A sign in front of a number. -/
def sign (negative : Bool) : List Char := if negative then ['-'] else []

@[simp] theorem sign_true : sign true = ['-'] := rfl

@[simp] theorem sign_false : sign false = [] := rfl

theorem toList_toString (n : Int) :
    (toString n).toList = sign (n < 0) ++ Nat.toDigits 10 n.natAbs := by
  rw [Int.toString_eq_repr, Int.repr_eq_if]
  by_cases h : n < 0
  · have habs : (-n).toNat = n.natAbs := by omega
    simp [sign, h, habs, Nat.repr_eq_ofList_toDigits, show ¬ 0 ≤ n by omega]
  · have habs : n.toNat = n.natAbs := by omega
    simp [sign, h, habs, Nat.repr_eq_ofList_toDigits, show 0 ≤ n by omega]

/-- Digits with nothing else behind them are a whole number, if it is small enough and no negative
zero. -/
theorem readNumber_digits (negative : Bool) (n : Nat) {rest : List Char} (h : EndsNumber rest) :
    readNumber (sign negative ++ Nat.toDigits 10 n ++ rest) =
      let value : Int := if negative then -(n : Int) else n
      if minWhole ≤ value ∧ value ≤ maxWhole ∧ !(negative && n == 0) then some (.whole value, rest)
      else some (.decimal ⟨negative, n, 0⟩, rest) := by
  have htake := takeWhile_toDigits (n := n) h.not_digit
  have hdrop := dropWhile_toDigits (n := n) h.not_digit
  cases negative
  · rw [sign_false, List.nil_append, readNumber]
    · simp only [htake, hdrop, toDigits_wellFormed, Decimal.ofDigits_toDigits]
      cases rest with
      | nil => simp
      | cons c rest =>
        have hc := h c rfl
        simp only [not_or] at hc
        simp [hc]
    · exact fun t => toDigits_append_ne_cons (by decide)
  · rw [sign_true, List.singleton_append, List.cons_append, readNumber]
    simp only [htake, hdrop, toDigits_wellFormed, Decimal.ofDigits_toDigits]
    cases rest with
    | nil => simp
    | cons c rest =>
      have hc := h c rfl
      simp only [not_or] at hc
      simp [hc]

theorem readNumber_toString {n : Int} (low : minWhole ≤ n) (high : n ≤ maxWhole)
    {rest : List Char} (h : EndsNumber rest) :
    readNumber ((toString n).toList ++ rest) = some (.whole n, rest) := by
  have hsign : (!(decide (n < 0) && n.natAbs == 0)) = true := by
    simp only [Bool.not_eq_true', Bool.and_eq_false_iff, decide_eq_false_iff_not,
      beq_eq_false_iff_ne]
    omega
  have hvalue : (if decide (n < 0) = true then -(n.natAbs : Int) else n.natAbs) = n := by
    simp only [decide_eq_true_eq]
    split <;> omega
  rw [toList_toString, readNumber_digits _ _ h]
  simp only [hvalue, low, high, hsign, and_self, if_true]

theorem readExponent_toString (e : Int) {rest : List Char} (h : EndsNumber rest) :
    readExponent ((toString e).toList ++ rest) = some (e, rest) := by
  have htake := takeWhile_toDigits (n := e.natAbs) h.not_digit
  have hdrop := dropWhile_toDigits (n := e.natAbs) h.not_digit
  have hdigits := Decimal.ofDigits_toDigits e.natAbs
  rw [toList_toString]
  by_cases he : e < 0
  · rw [decide_eq_true he, sign_true, List.singleton_append, List.cons_append, readExponent]
    simp only [htake, hdrop]
    split
    · exact absurd ‹_› Nat.toDigits_ne_nil
    · simp only [hdigits, if_true, Option.some.injEq, Prod.mk.injEq, and_true]
      omega
  · rw [decide_eq_false he, sign_false, List.nil_append, readExponent]
    · simp only [htake, hdrop]
      split
      · exact absurd ‹_› Nat.toDigits_ne_nil
      · simp only [hdigits, Bool.false_eq_true, if_false, Option.some.injEq, Prod.mk.injEq,
          and_true]
        omega
    · exact fun t => toDigits_append_ne_cons (by decide)
    · exact fun t => toDigits_append_ne_cons (by decide)

theorem toList_decimalText (d : Decimal) (rest : List Char) :
    (decimalText d).toList ++ rest = sign d.negative ++
      (Nat.toDigits 10 d.mantissa ++ 'e' :: ((toString d.exponent).toList ++ rest)) := by
  cases hd : d.negative <;> simp [decimalText, sign, hd]

theorem readNumber_decimalText (d : Decimal) {rest : List Char} (h : EndsNumber rest) :
    readNumber ((decimalText d).toList ++ rest) = some (.decimal d, rest) := by
  have hexp := readExponent_toString d.exponent h
  rw [toList_decimalText]
  generalize (toString d.exponent).toList ++ rest = tail at hexp
  have hchar : ∀ c ∈ ('e' :: tail).head?, c.isDigit = false := by simp
  have htake := takeWhile_toDigits (n := d.mantissa) hchar
  have hdrop := dropWhile_toDigits (n := d.mantissa) hchar
  obtain ⟨negative, mantissa, exponent⟩ := d
  cases negative
  · rw [sign_false, List.nil_append, readNumber]
    · simp [htake, hdrop, toDigits_wellFormed, Decimal.ofDigits_toDigits, hexp]
    · exact fun t => toDigits_append_ne_cons (by decide)
  · rw [sign_true, List.singleton_append, readNumber]
    simp [htake, hdrop, toDigits_wellFormed, Decimal.ofDigits_toDigits, hexp]

/-! ## Strings -/

theorem hexDigit?_lastHexDigit (n : Nat) :
    Text.hexDigit? (Text.lastHexDigit n) = some (n % 16) := by
  have h : n % 16 < 16 := Nat.mod_lt n (by decide)
  rw [Text.lastHexDigit]
  interval_cases n % 16 <;> rfl

theorem hexQuad?_of_lt {n : Nat} (h : n < 256) :
    hexQuad? '0' '0' (Text.lastHexDigit (n / 16)) (Text.lastHexDigit n) = some n := by
  simp only [hexQuad?, hexDigit?_lastHexDigit]
  simp [Text.hexDigit?]
  omega

/-- A control character is read back from its code. -/
theorem readString_code {c : Char} (h : c.toNat < 32) (done rest : List Char) :
    readString done ('\\' :: 'u' :: '0' :: '0' :: Text.lastHexDigit (c.toNat / 16) ::
      Text.lastHexDigit c.toNat :: rest) = readString (c :: done) rest := by
  have hquad := hexQuad?_of_lt (show c.toNat < 256 by omega)
  have hvalid : c.toNat.isValidChar := c.valid
  have hsurrogate : ¬(0xD800 ≤ c.toNat ∧ c.toNat < 0xDC00) := by omega
  generalize Text.lastHexDigit (c.toNat / 16) = a at hquad ⊢
  generalize Text.lastHexDigit c.toNat = b at hquad ⊢
  rw [readString.eq_def]
  split
  · simp at *
  · rename_i heq
    simp only [List.cons.injEq, true_and] at heq
    obtain ⟨rfl, rfl, rfl, rfl, rfl⟩ := heq
    simp [hquad, hsurrogate, hvalid]
  · rename_i heq
    simp only [List.cons.injEq, true_and] at heq
    obtain ⟨rfl, rfl, rfl, rfl, rfl⟩ := heq
    simp [hquad, hvalid]
  · rename_i hno heq
    simp only [List.cons.injEq, true_and] at heq
    exact absurd heq.2.symm (hno _ _ _ _ _ heq.1.symm)
  · rename_i hno heq
    simp only [List.cons.injEq] at heq
    exact absurd heq.2.symm (hno _ _ heq.1.symm)
  · simp at *

theorem readString_escapeChar (c : Char) (done rest : List Char) :
    readString done (escapeChar c ++ rest) = readString (c :: done) rest := by
  unfold escapeChar
  split
  any_goals (simp [readString, shortEscape?])
  rename_i hquote hbackslash _ _ _ _ _
  split
  · exact readString_code ‹_› done rest
  · rename_i hcontrol
    rw [List.singleton_append, readString.eq_def]
    split
    any_goals simp_all

theorem readString_flatMap (cs done rest : List Char) :
    readString done (cs.flatMap escapeChar ++ '"' :: rest) =
      some (String.ofList (done.reverse ++ cs), rest) := by
  induction cs generalizing done with
  | nil => simp [readString]
  | cons c cs ih =>
    rw [List.flatMap_cons, List.append_assoc, readString_escapeChar, ih]
    simp

/-- A text in quotes begins with a quote, and reading on from there gives it back. -/
theorem quote_append (s : String) (rest : List Char) :
    ∃ t, (quote s).toList ++ rest = '"' :: t ∧ readString [] t = some (s, rest) := by
  refine ⟨s.toList.flatMap escapeChar ++ '"' :: rest, by simp [quote], ?_⟩
  rw [readString_flatMap]
  simp

/-! ## Texts -/

/-- Whether a text consists of blanks. -/
def Blanks (s : List Char) : Prop := ∀ c ∈ s, isBlank c = true

theorem blanks_nil : Blanks [] := nofun

theorem skip_blanks {b : List Char} (hb : Blanks b) (s : List Char) : skip (b ++ s) = skip s :=
  List.dropWhile_append_of_pos hb

theorem skip_cons {c : Char} (hc : isBlank c = false) (s : List Char) : skip (c :: s) = c :: s := by
  simp [skip, hc]

/-- What a stretch of JSON text stands for: a value, or the rest of an array or an object behind
its bracket, if it is not empty. -/
inductive Piece where
  | value (j : Json)
  | items (js : List Json)
  | members (ms : List (String × Json))

/-- The texts of a piece, with blanks between its parts and none in front. -/
inductive Spells : Piece → List Char → Prop
  | null : Spells (.value .null) "null".toList
  | bool (b : Bool) : Spells (.value (.bool b)) (if b then "true" else "false").toList
  | whole {n : Int} (low : minWhole ≤ n) (high : n ≤ maxWhole) :
      Spells (.value (.whole n)) (toString n).toList
  | decimal (d : Decimal) : Spells (.value (.decimal d)) (decimalText d).toList
  | string (s : String) : Spells (.value (.string s)) (quote s).toList
  | emptyArray {b : List Char} : Blanks b → Spells (.value (.array [])) ('[' :: (b ++ [']']))
  | array {b s : List Char} {js : List Json} :
      Blanks b → Spells (.items js) s → Spells (.value (.array js)) ('[' :: (b ++ s))
  | lastItem {a s : List Char} {j : Json} :
      Spells (.value j) s → Blanks a → Spells (.items [j]) (s ++ (a ++ [']']))
  | item {a b s t : List Char} {j : Json} {js : List Json} :
      Spells (.value j) s → Blanks a → Blanks b → Spells (.items js) t →
      Spells (.items (j :: js)) (s ++ (a ++ ',' :: (b ++ t)))
  | emptyObject {b : List Char} :
      Blanks b → Spells (.value (.object [])) ('\x7b' :: (b ++ ['\x7d']))
  | object {b s : List Char} {ms : List (String × Json)} :
      Blanks b → Spells (.members ms) s → Spells (.value (.object ms)) ('\x7b' :: (b ++ s))
  | lastMember {a b s : List Char} (name : String) {j : Json} :
      Blanks a → Spells (.value j) s → Blanks b →
      Spells (.members [(name, j)]) ((quote name).toList ++ ':' :: (a ++ (s ++ (b ++ ['\x7d']))))
  | member {a b c s t : List Char} (name : String) {j : Json} {ms : List (String × Json)} :
      Blanks a → Spells (.value j) s → Blanks b → Blanks c → Spells (.members ms) t →
      Spells (.members ((name, j) :: ms))
        ((quote name).toList ++ ':' :: (a ++ (s ++ (b ++ ',' :: (c ++ t)))))

/-- Reading with so much fuel finds the piece in front of the rest of a text. -/
def Piece.IsReadBy (fuel : Nat) (text rest : List Char) : Piece → Prop
  | value j => readValue fuel text = some (j, rest)
  | items js => readItems fuel text = some (js, rest)
  | members ms => readMembers fuel text = some (ms, rest)

/-! ## Reading -/

theorem readValue_blanks {b : List Char} (hb : Blanks b) (fuel : Nat) (s : List Char) :
    readValue fuel (b ++ s) = readValue fuel s := by
  cases fuel with
  | zero => rfl
  | succ fuel => rw [readValue, readValue, skip_blanks hb]

theorem readItems_blanks {b : List Char} (hb : Blanks b) (fuel : Nat) (s : List Char) :
    readItems fuel (b ++ s) = readItems fuel s := by
  cases fuel with
  | zero => rfl
  | succ fuel => rw [readItems, readItems, readValue_blanks hb]

theorem readMembers_blanks {b : List Char} (hb : Blanks b) (fuel : Nat) (s : List Char) :
    readMembers fuel (b ++ s) = readMembers fuel s := by
  cases fuel with
  | zero => rfl
  | succ fuel => rw [readMembers, readMembers, skip_blanks hb]

/-- Whether a text begins like a number. -/
def BeginsNumber (s : List Char) : Prop := ∃ c t, s = c :: t ∧ (c = '-' ∨ c.isDigit = true)

theorem beginsNumber_digits (negative : Bool) (n : Nat) (rest : List Char) :
    BeginsNumber (sign negative ++ (Nat.toDigits 10 n ++ rest)) := by
  cases negative
  · cases h : Nat.toDigits 10 n with
    | nil => exact absurd h Nat.toDigits_ne_nil
    | cons c ds => exact ⟨c, ds ++ rest, rfl, .inr (isDigit_of_mem_toDigits (n := n) (by simp [h]))⟩
  · exact ⟨'-', Nat.toDigits 10 n ++ rest, rfl, .inl rfl⟩

theorem beginsNumber_toString (n : Int) (rest : List Char) :
    BeginsNumber ((toString n).toList ++ rest) := by
  rw [toList_toString, List.append_assoc]
  exact beginsNumber_digits _ _ _

theorem beginsNumber_decimalText (d : Decimal) (rest : List Char) :
    BeginsNumber ((decimalText d).toList ++ rest) := by
  rw [toList_decimalText]
  exact beginsNumber_digits _ _ _

theorem isBlank_of_isDigit {c : Char} (h : c.isDigit = true) : isBlank c = false := by
  rw [Bool.eq_false_iff]
  intro hb
  simp only [isBlank, Bool.or_eq_true, decide_eq_true_eq] at hb
  rcases hb with ((rfl | rfl) | rfl) | rfl <;> exact absurd h (by decide)

theorem readValue_number {s : List Char} (h : BeginsNumber s) (fuel : Nat) :
    readValue (fuel + 1) s = readNumber s := by
  obtain ⟨c, t, rfl, hc⟩ := h
  have hblank : isBlank c = false := hc.elim (by rintro rfl; rfl) isBlank_of_isDigit
  have hfirst : ∀ {d u}, c :: t = d :: u → d = '-' ∨ d.isDigit = true := by
    rintro d u heq
    obtain ⟨rfl, rfl⟩ := List.cons.inj heq
    exact hc
  rw [readValue, skip_cons hblank]
  split
  case h_7 => rfl
  all_goals exact absurd (hfirst ‹_›) (by decide)

/-- Whether a text begins with something that is neither skipped nor the end of an array or an
object. -/
def Opens (s : List Char) : Prop :=
  ∃ c t, s = c :: t ∧ isBlank c = false ∧ c ≠ ']' ∧ c ≠ '\x7d'

theorem Opens.append {s : List Char} (h : Opens s) (rest : List Char) : Opens (s ++ rest) := by
  obtain ⟨c, t, rfl, hc⟩ := h
  exact ⟨c, t ++ rest, rfl, hc⟩

theorem Opens.skip {s : List Char} (h : Opens s) : skip s = s := by
  obtain ⟨c, t, rfl, hc, -⟩ := h
  exact skip_cons hc t

theorem BeginsNumber.opens {s : List Char} (h : BeginsNumber s) : Opens s := by
  obtain ⟨c, t, rfl, rfl | hc⟩ := h
  · exact ⟨'-', t, rfl, by decide⟩
  · refine ⟨c, t, rfl, isBlank_of_isDigit hc, ?_, ?_⟩ <;> rintro rfl <;> exact absurd hc (by decide)

theorem opens_quote (s : String) (rest : List Char) : Opens ((quote s).toList ++ rest) := by
  obtain ⟨t, heq, -⟩ := quote_append s rest
  exact ⟨'"', t, heq, by decide⟩

theorem Spells.opens {p : Piece} {s : List Char} (h : Spells p s) : Opens s := by
  induction h with
  | null => exact ⟨_, _, rfl, by decide⟩
  | bool b => cases b <;> exact ⟨_, _, rfl, by decide⟩
  | whole => simpa using (beginsNumber_toString _ []).opens
  | decimal d => simpa using (beginsNumber_decimalText d []).opens
  | string s => simpa using opens_quote s []
  | emptyArray | array => exact ⟨'[', _, rfl, by decide⟩
  | emptyObject | object => exact ⟨'\x7b', _, rfl, by decide⟩
  | lastItem _ _ ih | item _ _ _ _ ih => exact ih.append _
  | lastMember name | member name => exact opens_quote name _

theorem endsNumber_cons {c : Char} (h : ¬(c.isDigit = true ∨ c = '.' ∨ c = 'e' ∨ c = 'E'))
    (rest : List Char) : EndsNumber (c :: rest) := by
  intro d hd
  cases hd
  exact h

theorem endsNumber_blanks {b rest : List Char} (hb : Blanks b) (h : EndsNumber rest) :
    EndsNumber (b ++ rest) := by
  cases b with
  | nil => exact h
  | cons c b =>
    have hc := hb c (by simp)
    simp only [isBlank, Bool.or_eq_true, decide_eq_true_eq] at hc
    rcases hc with ((rfl | rfl) | rfl) | rfl <;> exact endsNumber_cons (by decide) _

section Steps
variable {fuel : Nat} {a b s t rest : List Char} {j : Json} {js : List Json}
  {ms : List (String × Json)}

theorem readValue_emptyArray (hb : Blanks b) :
    readValue (fuel + 1) ('[' :: (b ++ ']' :: rest)) = some (.array [], rest) := by
  rw [readValue, skip_cons (by decide)]
  simp only [skip_blanks hb, skip_cons (c := ']') (by decide)]

theorem readValue_array (hb : Blanks b) (hs : Opens s) (h : readItems fuel s = some (js, rest)) :
    readValue (fuel + 1) ('[' :: (b ++ s)) = some (.array js, rest) := by
  rw [readValue, skip_cons (by decide)]
  simp only [skip_blanks hb, hs.skip]
  obtain ⟨c, t, rfl, -, hc, -⟩ := hs
  simp [hc, h]

theorem readItems_last (ha : Blanks a) (h : readValue fuel s = some (j, a ++ ']' :: rest)) :
    readItems (fuel + 1) s = some ([j], rest) := by
  simp [readItems, h, skip_blanks ha, skip_cons (c := ']') (by decide)]

theorem readItems_cons (ha : Blanks a) (hb : Blanks b)
    (h : readValue fuel s = some (j, a ++ ',' :: (b ++ t)))
    (ht : readItems fuel t = some (js, rest)) :
    readItems (fuel + 1) s = some (j :: js, rest) := by
  simp [readItems, h, skip_blanks ha, skip_cons (c := ',') (by decide), readItems_blanks hb, ht]

theorem readValue_emptyObject (hb : Blanks b) :
    readValue (fuel + 1) ('\x7b' :: (b ++ '\x7d' :: rest)) = some (.object [], rest) := by
  rw [readValue, skip_cons (by decide)]
  simp only [skip_blanks hb, skip_cons (c := '\x7d') (by decide)]

theorem readValue_object (hb : Blanks b) (hs : Opens s)
    (h : readMembers fuel s = some (ms, rest)) :
    readValue (fuel + 1) ('\x7b' :: (b ++ s)) = some (.object ms, rest) := by
  rw [readValue, skip_cons (by decide)]
  simp only [skip_blanks hb, hs.skip]
  obtain ⟨c, t, rfl, -, -, hc⟩ := hs
  simp [hc, h]

theorem readMembers_last (name : String) (ha : Blanks a) (hb : Blanks b)
    (h : readValue fuel s = some (j, b ++ '\x7d' :: rest)) :
    readMembers (fuel + 1) ((quote name).toList ++ ':' :: (a ++ s)) = some ([(name, j)], rest) := by
  obtain ⟨u, heq, hread⟩ := quote_append name (':' :: (a ++ s))
  rw [readMembers, heq, skip_cons (by decide)]
  simp [hread, skip_cons (c := ':') (by decide), readValue_blanks ha, h, skip_blanks hb,
    skip_cons (c := '\x7d') (by decide)]

theorem readMembers_cons (name : String) {c : List Char} (ha : Blanks a) (hb : Blanks b)
    (hc : Blanks c) (h : readValue fuel s = some (j, b ++ ',' :: (c ++ t)))
    (ht : readMembers fuel t = some (ms, rest)) :
    readMembers (fuel + 1) ((quote name).toList ++ ':' :: (a ++ s)) =
      some ((name, j) :: ms, rest) := by
  obtain ⟨u, heq, hread⟩ := quote_append name (':' :: (a ++ s))
  rw [readMembers, heq, skip_cons (by decide)]
  simp [hread, skip_cons (c := ':') (by decide), readValue_blanks ha, h, skip_blanks hb,
    skip_cons (c := ',') (by decide), readMembers_blanks hc, ht]

end Steps

/-- A part of a text is shorter than the text, so there is fuel left for it. -/
theorem exists_fuel {n fuel : Nat} (h : n < fuel) : ∃ f, fuel = f + 1 ∧ n ≤ f :=
  ⟨fuel - 1, by omega, by omega⟩

/-- Every text of a piece is read as that piece, whatever stands behind it, as long as a number at
the end of the piece cannot go on there. -/
theorem Spells.isReadBy {p : Piece} {s : List Char} (h : Spells p s) :
    ∀ {fuel : Nat} {rest : List Char}, s.length ≤ fuel → EndsNumber rest →
      p.IsReadBy (fuel + 1) (s ++ rest) rest := by
  induction h with
  | null =>
    intro fuel rest _ _
    simp [Piece.IsReadBy, readValue, skip, isBlank]
  | bool b =>
    intro fuel rest _ _
    cases b <;> simp [Piece.IsReadBy, readValue, skip, isBlank]
  | @whole n low high =>
    intro fuel rest _ hrest
    rw [Piece.IsReadBy, readValue_number (beginsNumber_toString n rest),
      readNumber_toString low high hrest]
  | decimal d =>
    intro fuel rest _ hrest
    rw [Piece.IsReadBy, readValue_number (beginsNumber_decimalText d rest),
      readNumber_decimalText d hrest]
  | string s =>
    intro fuel rest _ _
    obtain ⟨t, heq, hread⟩ := quote_append s rest
    rw [Piece.IsReadBy, heq, readValue, skip_cons (by decide)]
    simp [hread]
  | emptyArray hb =>
    intro fuel rest _ _
    simpa [Piece.IsReadBy] using readValue_emptyArray hb
  | @array b s js hb hs ih =>
    intro fuel rest hfuel hrest
    obtain ⟨f, rfl, hf⟩ : ∃ f, fuel = f + 1 ∧ s.length ≤ f :=
      exists_fuel (by simp at hfuel; omega)
    simpa [Piece.IsReadBy] using readValue_array hb (hs.opens.append rest) (ih hf hrest)
  | @lastItem a s j hs ha ih =>
    intro fuel rest hfuel hrest
    obtain ⟨f, rfl, hf⟩ : ∃ f, fuel = f + 1 ∧ s.length ≤ f :=
      exists_fuel (by simp at hfuel; omega)
    have hread := ih hf (endsNumber_blanks ha (endsNumber_cons (c := ']') (by decide) rest))
    simpa [Piece.IsReadBy] using readItems_last ha hread
  | @item a b s t j js hs ha hb ht ihs iht =>
    intro fuel rest hfuel hrest
    obtain ⟨f, rfl, hf⟩ : ∃ f, fuel = f + 1 ∧ s.length + t.length ≤ f :=
      exists_fuel (by simp at hfuel; omega)
    have hread := ihs (show s.length ≤ f by omega)
      (endsNumber_blanks ha (endsNumber_cons (c := ',') (by decide) (b ++ (t ++ rest))))
    simpa [Piece.IsReadBy] using readItems_cons ha hb hread (iht (by omega) hrest)
  | emptyObject hb =>
    intro fuel rest _ _
    simpa [Piece.IsReadBy] using readValue_emptyObject hb
  | @object b s ms hb hs ih =>
    intro fuel rest hfuel hrest
    obtain ⟨f, rfl, hf⟩ : ∃ f, fuel = f + 1 ∧ s.length ≤ f :=
      exists_fuel (by simp at hfuel; omega)
    simpa [Piece.IsReadBy] using readValue_object hb (hs.opens.append rest) (ih hf hrest)
  | @lastMember a b s name j ha hs hb ih =>
    intro fuel rest hfuel hrest
    obtain ⟨f, rfl, hf⟩ : ∃ f, fuel = f + 1 ∧ s.length ≤ f :=
      exists_fuel (by simp at hfuel; omega)
    have hread := ih hf (endsNumber_blanks hb (endsNumber_cons (c := '\x7d') (by decide) rest))
    simpa [Piece.IsReadBy] using readMembers_last name ha hb hread
  | @member a b c s t name j ms ha hs hb hc ht ihs iht =>
    intro fuel rest hfuel hrest
    obtain ⟨f, rfl, hf⟩ : ∃ f, fuel = f + 1 ∧ s.length + t.length ≤ f :=
      exists_fuel (by simp at hfuel; omega)
    have hread := ihs (show s.length ≤ f by omega)
      (endsNumber_blanks hb (endsNumber_cons (c := ',') (by decide) (c ++ (t ++ rest))))
    simpa [Piece.IsReadBy] using readMembers_cons name ha hb hc hread (iht (by omega) hrest)

/-- A text of a value with blanks around it is read as that value and nothing is left over. -/
theorem Spells.parse? {j : Json} {s : List Char} (h : Spells (.value j) s) {text : String}
    {a b : List Char} (ha : Blanks a) (hb : Blanks b) (htext : text.toList = a ++ (s ++ b)) :
    parse? text = some j := by
  have hskip : skip b = [] := List.dropWhile_eq_nil_iff.mpr hb
  have hends : EndsNumber (b ++ []) := endsNumber_blanks hb (by simp [EndsNumber])
  rw [List.append_nil] at hends
  have hread : readValue (text.toList.length + 1) (s ++ b) = some (j, b) :=
    h.isReadBy (by rw [htext]; simp only [List.length_append]; omega) hends
  rw [← readValue_blanks ha, ← htext] at hread
  simp only [Json.parse?, hread]
  simp [hskip]

end Json

end LeaseBroker
