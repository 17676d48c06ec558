import LeaseBroker.Broker.RescanLoop
import LeaseBroker.Proofs.Accounting

/-!
# How often the rescan loop rescans

The loop makes a pass at its start and one after each interval that ends before the stop, whatever
others do to the pool in between. Every pass is one rescan of what it finds at its moment, and
notifies all who wait then.
-/

set_option autoImplicit false

namespace LeaseBroker

namespace Ticker

def after (t : Ticker) (n : Nat) : Ticker := { t with due := t.due + n * t.period }

theorem after_zero (t : Ticker) : t.after 0 = t := by
  simp [after]

theorem next_after (t : Ticker) (n : Nat) : (t.after n).next = t.after (n + 1) := by
  simp only [after, next, Nat.add_assoc, Nat.succ_mul]

/-- When the stop falls between two ticks, the ticks ahead of it are the first one and one for each
period that fits. -/
theorem goesOn_after_iff {t : Ticker} {time : Nat} (h : ¬ t.period ∣ time) (stopFirst : Bool)
    (n : Nat) : (t.after n).goesOn (t.due + time) stopFirst = true ↔ n < time / t.period + 1 := by
  have hapart : n * t.period ≠ time := fun heq => h ⟨n, by rw [← heq, Nat.mul_comm]⟩
  have hnever : ¬ t.due + n * t.period = t.due + time := fun heq => hapart (Nat.add_left_cancel heq)
  rw [Nat.lt_succ_iff, Nat.le_div_iff_mul_le t.period_pos]
  simp only [goesOn, after, hnever, decide_false, Bool.false_and, Bool.or_false,
    decide_eq_true_eq, Nat.add_lt_add_iff_left]
  omega

end Ticker

namespace Pool
variable {W K H : Type} (cls : DeviceClasses W K H) (others : Others W K H)

/-! ### One pass -/

/-- What a rescan makes of a pool, but for the log. -/
structure Rescanned (before after : Pool W K H) : Prop where
  registry : after.broker.toRegistry = (before.broker.rescan cls).2.toRegistry
  world : after.broker.world = (before.broker.rescan cls).2.world
  now : after.broker.now = (before.broker.rescan cls).2.now
  waiting : after.waiting = before.waiting.map fun w => { w with notified := true }

theorem pass_rescanned (p : Pool W K H) : Rescanned cls p (p.pass cls) := by
  have hbroker : (p.rescan cls).2.broker = (p.broker.rescan cls).2 := p.rescan_broker cls
  have hwaiting : (p.rescan cls).2.waiting = p.waiting.map fun w => { w with notified := true } :=
    rfl
  unfold pass
  generalize p.rescan cls = rescanned at hbroker hwaiting ⊢
  dsimp only
  have hregistry := congrArg (·.toRegistry) hbroker
  have hworld := congrArg (·.world) hbroker
  have hnow := congrArg (·.now) hbroker
  split <;> exact ⟨hregistry, hworld, hnow, hwaiting⟩

/-! ### All passes -/

/-- The pool after a number of passes, the first of them at once and each other one an interval
after the one in front of it. -/
def afterPasses (p : Pool W K H) (interval : Nat) : Nat → Pool W K H
  | 0 => p
  | n + 1 => ((p.afterPasses interval n).await others (p.broker.now + n * interval)).pass cls

def foundAfter (p : Pool W K H) (interval n : Nat) : Pool W K H :=
  (p.afterPasses cls others interval n).await others (p.broker.now + n * interval)

def stopped (stop : Moment) (passes : Nat) (p : Pool W K H) : Pool W K H :=
  let p := p.await others stop
  { p with broker := p.broker.note (.loopStopped passes) }

theorem stopped_nobody (p : Pool W K H) (stop : Moment) (passes : Nat) :
    (p.stopped nobody stop passes).broker.toRegistry = p.broker.toRegistry ∧
    (p.stopped nobody stop passes).broker.world = p.broker.world ∧
    (p.stopped nobody stop passes).waiting = p.waiting :=
  ⟨rfl, rfl, rfl⟩

variable (stopFirst : Bool)

theorem rescanUntil_after {p : Pool W K H} {ticker : Ticker} {stop : Moment} {total : Nat}
    (hdue : ticker.due = p.broker.now)
    (h : ∀ n, (ticker.after n).goesOn stop stopFirst = true ↔ n < total) (left : Nat) :
    ∀ n, n + left = total →
      rescanUntil cls others stop stopFirst (ticker.after n) n
        (p.afterPasses cls others ticker.period n) =
      (total, (p.afterPasses cls others ticker.period total).stopped others stop total) := by
  -- The induction is on the passes that are left, from the last one back to the first.
  induction left with
  | zero =>
    rintro n rfl
    rw [rescanUntil, if_neg fun hgoes => Nat.lt_irrefl n ((h n).mp hgoes)]
    rfl
  | succ left ih =>
    intro n hn
    have hgoes : (ticker.after n).goesOn stop stopFirst = true := (h n).mpr (by omega)
    have hmoment : (ticker.after n).due = p.broker.now + n * ticker.period := by
      rw [← hdue]
      rfl
    rw [rescanUntil, if_pos hgoes, Ticker.next_after, hmoment]
    exact ih (n + 1) (by omega)

theorem runRescans_eq {p : Pool W K H} {interval time : Nat} (hinterval : 0 < interval)
    (hapart : ¬ interval ∣ time) :
    p.runRescans cls interval time others stopFirst = some (time / interval + 1,
      (p.afterPasses cls others interval (time / interval + 1)).stopped others
        (p.broker.now + time) (time / interval + 1)) := by
  have hticks := Ticker.goesOn_after_iff (t := ⟨p.broker.now, interval, hinterval⟩) hapart stopFirst
  have hloop := rescanUntil_after cls others stopFirst (p := p) rfl hticks _ 0 (Nat.zero_add _)
  rw [Ticker.after_zero] at hloop
  rw [runRescans, Ticker.start?, dif_pos hinterval, Option.map_some]
  exact congrArg some hloop

/-- A loop that is stopped between two ticks has made a pass at its start and one for each interval
that fits into its time. Whatever others do in between, each pass is a rescan of the pool that it
finds at the moment of its tick, and notifies all who wait there. If nobody else does anything,
the passes alone decide what is left. -/
theorem rescans_at_every_tick (p : Pool W K H) {interval time : Nat} (hinterval : 0 < interval)
    (hapart : ¬ interval ∣ time) :
    p.runRescans cls interval time others stopFirst = some (time / interval + 1,
      (p.afterPasses cls others interval (time / interval + 1)).stopped others
        (p.broker.now + time) (time / interval + 1)) ∧
    (∀ n, (p.foundAfter cls others interval n).broker.now = p.broker.now + n * interval ∧
      Rescanned cls (p.foundAfter cls others interval n)
        (p.afterPasses cls others interval (n + 1))) ∧
    ∃ last, p.runRescans cls interval time = some (time / interval + 1, last) ∧
      last.broker.toRegistry =
        (p.afterPasses cls nobody interval (time / interval + 1)).broker.toRegistry ∧
      last.broker.world =
        (p.afterPasses cls nobody interval (time / interval + 1)).broker.world ∧
      last.waiting = (p.afterPasses cls nobody interval (time / interval + 1)).waiting := by
  refine ⟨runRescans_eq cls others stopFirst hinterval hapart, ?_, ?_⟩
  · intro n
    exact ⟨rfl, pass_rescanned cls _⟩
  · exact ⟨_, runRescans_eq cls nobody true hinterval hapart, stopped_nobody _ _ _⟩

def unplugging : Others Bench DeviceClass Handle := fun moment p =>
  if moment = 1000 then
    let phones := (p.broker.world.simulatedAt 0).unplug "A"
    p.run Bench.classes [.world (p.broker.world.setSimulated 0 0 phones {})]
  else p

/-- Three passes fit into two and a half seconds. The second one forgets the device, and the
acquirer that waits for another one is told to ask again. -/
theorem rescans_at_every_tick_unplugged :
    0 < 1000 ∧ ¬ 1000 ∣ 2500 ∧
    (∃ last, sharedPool.runRescans Bench.classes 1000 2500 unplugging false = some (3, last) ∧
      last.broker.devices = ["B"]) ∧
    (sharedPool.foundAfter Bench.classes unplugging 1000 1).broker.devices = ["A", "B"] ∧
    (sharedPool.foundAfter Bench.classes unplugging 1000 1).broker.now = 1000 ∧
    (sharedPool.afterPasses Bench.classes unplugging 1000 2).waiting.map (·.notified) = [true] := by
  have hapart : ¬ 1000 ∣ 2500 := by decide
  obtain ⟨hrun, hpasses, _⟩ :=
    rescans_at_every_tick Bench.classes unplugging false sharedPool (by decide) hapart
  refine ⟨by decide, hapart, ⟨_, hrun, by decide +kernel⟩, by decide +kernel, (hpasses 1).1, ?_⟩
  rw [(hpasses 1).2.waiting]
  decide +kernel

end Pool

end LeaseBroker
