import LeaseBroker.Broker.Waiting
import LeaseBroker.Proofs.ReconcileChanges

/-!
# What polling a waiter does

A poll ends in one of three ways: the waiter goes on waiting, it is refused, or it has its lease.
Only the last of these touches more than the log.
-/

set_option autoImplicit false

namespace LeaseBroker.Waiter
variable {W K H : Type} (cls : DeviceClasses W K H) (w : Waiter) (b : Broker W K H)

/-- What asking comes to. A waiter that has heard nothing new does not ask. -/
theorem ask_cases (pick : Nat) :
    (w.notified = false ∧ w.ask cls b pick = (none, w, b)) ∨
    (b.matching cls w.criteria ≠ [] ∧ b.matchingFree cls w.criteria = [] ∧
      w.ask cls b pick = (none, { w with notified := false }, b.note (.blocked w.acquirer))) ∨
    (w.ask cls b pick = (some (.error .noMatch), w, b)) ∨
    (∃ id e, id ∈ b.matchingFree cls w.criteria ∧ b.entries.get? id = some e ∧
      b.isFree cls e = true ∧
      w.ask cls b pick = (some (.ok id), w, b.leased id e w.acquirer w.started)) := by
  unfold ask
  cases hn : w.notified with
  | false => exact Or.inl ⟨rfl, rfl⟩
  | true =>
    refine Or.inr ?_
    rcases b.lease_cases cls w.criteria w.acquirer w.started pick with
      ⟨_, h⟩ | ⟨hm, hf, h⟩ | ⟨id, e, hid, he, hfree, h⟩
    · exact Or.inr (Or.inl (by simp only [h, if_true]))
    · exact Or.inl ⟨hm, hf, by simp only [h, if_true]⟩
    · exact Or.inr (Or.inr ⟨id, e, hid, he, hfree, by simp only [h, if_true]⟩)

theorem giveUp_cases :
    (w.giveUp b = (none, w, b)) ∨
    (w.giveUp b = (some (.error .cancelled), w, b.note (.gaveUp w.acquirer))) := by
  unfold giveUp
  split
  · exact Or.inr rfl
  · exact Or.inl rfl

theorem eq_silent_of_not_notified {w : Waiter} (h : w.notified = false) :
    w = { w with notified := false } := by
  cases w
  simp_all

theorem poll_of_not_ready (h : w.ready b.now = false) (pick : Nat) (giveUpFirst : Bool) :
    w.poll cls b pick giveUpFirst = (none, w, b) := by
  obtain ⟨hn, hexp⟩ := Bool.or_eq_false_iff.mp h
  have hask : w.ask cls b pick = (none, w, b) := by
    simp only [ask, hn, Bool.false_eq_true, if_false]
  have hgive : w.giveUp b = (none, w, b) := by
    simp only [giveUp, hexp, Bool.false_eq_true, if_false]
  cases giveUpFirst with
  | true => simp only [poll, hgive, hask, if_true]
  | false => simp only [poll, hgive, hask, Bool.false_eq_true, if_false]

/-- The three outcomes of a poll. A waiter that asked in vain knows that every match is at
capacity. -/
theorem poll_cases (pick : Nat) (giveUpFirst : Bool) :
    (∃ log, w.poll cls b pick giveUpFirst = (none, { w with notified := false }, { b with log }) ∧
      (w.notified = true →
        b.matching cls w.criteria ≠ [] ∧ b.matchingFree cls w.criteria = [])) ∨
    (∃ r w' log, r ≠ .unavailable ∧
      w.poll cls b pick giveUpFirst = (some (.error r), w', { b with log })) ∨
    (∃ id e, id ∈ b.matchingFree cls w.criteria ∧ b.entries.get? id = some e ∧
      b.isFree cls e = true ∧
      w.poll cls b pick giveUpFirst = (some (.ok id), w, b.leased id e w.acquirer w.started)) := by
  -- Asking ends the poll unless it is in vain, and only then the other branch is tried.
  cases giveUpFirst with
  | true =>
    rcases w.giveUp_cases b with hg | hg
    · have hpoll : w.poll cls b pick true = w.ask cls b pick := by simp only [poll, hg, if_true]
      rw [hpoll]
      rcases w.ask_cases cls b pick with
        ⟨hn, h⟩ | ⟨hm, hf, h⟩ | h | ⟨id, e, hid, he, hfree, h⟩
      · refine Or.inl ⟨b.log, ?_, fun hy => absurd hy (by simp [hn])⟩
        rw [h, ← eq_silent_of_not_notified hn]
      · exact Or.inl ⟨_, h, fun _ => ⟨hm, hf⟩⟩
      · exact Or.inr (Or.inl ⟨.noMatch, w, b.log, by decide, h⟩)
      · exact Or.inr (Or.inr ⟨id, e, hid, he, hfree, h⟩)
    · refine Or.inr (Or.inl ⟨.cancelled, w, .gaveUp w.acquirer :: b.log, by decide, ?_⟩)
      simp only [poll, hg, if_true]
      rfl
  | false =>
    rcases w.ask_cases cls b pick with
      ⟨hn, h⟩ | ⟨hm, hf, h⟩ | h | ⟨id, e, hid, he, hfree, h⟩
    · have hpoll : w.poll cls b pick false = w.giveUp b := by
        simp only [poll, h, Bool.false_eq_true, if_false]
      rw [hpoll]
      rcases w.giveUp_cases b with hg | hg
      · refine Or.inl ⟨b.log, ?_, fun hy => absurd hy (by simp [hn])⟩
        rw [hg, ← eq_silent_of_not_notified hn]
      · exact Or.inr (Or.inl ⟨.cancelled, w, _, by decide, hg⟩)
    · have hpoll : w.poll cls b pick false =
          ({ w with notified := false } : Waiter).giveUp (b.note (.blocked w.acquirer)) := by
        simp only [poll, h, Bool.false_eq_true, if_false]
      rw [hpoll]
      rcases ({ w with notified := false } : Waiter).giveUp_cases (b.note (.blocked w.acquirer))
        with hg | hg
      · exact Or.inl ⟨_, hg, fun _ => ⟨hm, hf⟩⟩
      · exact Or.inr (Or.inl ⟨.cancelled, _, _, by decide, hg⟩)
    · refine Or.inr (Or.inl ⟨.noMatch, w, b.log, by decide, ?_⟩)
      simp only [poll, h, Bool.false_eq_true, if_false]
    · refine Or.inr (Or.inr ⟨id, e, hid, he, hfree, ?_⟩)
      simp only [poll, h, Bool.false_eq_true, if_false]

theorem ask_deeds (pick : Nat) : b.Deeds cls (w.ask cls b pick).2.2 := by
  rcases w.ask_cases cls b pick with ⟨_, h⟩ | ⟨_, _, h⟩ | h | ⟨id, e, _, he, hf, h⟩
  · rw [h]
  · rw [h]
    exact .single (.note _ not_false)
  · rw [h]
  · rw [h]
    exact .single (.lease _ _ he hf)

theorem giveUp_deeds : b.Deeds cls (w.giveUp b).2.2 := by
  rcases w.giveUp_cases b with h | h
  · rw [h]
  · rw [h]
    exact .single (.note _ not_false)

theorem poll_deeds (pick : Nat) (giveUpFirst : Bool) :
    b.Deeds cls (w.poll cls b pick giveUpFirst).2.2 := by
  unfold poll
  split
  · have hg := w.giveUp_deeds cls b
    split
    · rename_i w' b' h
      rw [h] at hg
      exact hg.trans (w'.ask_deeds cls b' pick)
    · exact hg
  · have ha := w.ask_deeds cls b pick
    split
    · rename_i w' b' h
      rw [h] at ha
      exact ha.trans (w'.giveUp_deeds cls b')
    · exact ha

end LeaseBroker.Waiter
