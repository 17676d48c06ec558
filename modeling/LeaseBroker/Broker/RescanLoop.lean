import LeaseBroker.Broker.Waiting

/-!
# The rescan loop

Rescans whenever a timer is due, until it is told to stop. The loop is one of many that share a
pool: before each of its turns others may have done whatever they like. A rescan takes no time, so
no tick is seen late.
-/

set_option autoImplicit false

namespace LeaseBroker

structure Ticker where
  due : Moment
  period : Nat
  period_pos : 0 < period

namespace Ticker

def start? (now : Moment) (period : Nat) : Option Ticker :=
  if h : 0 < period then some ⟨now, period, h⟩ else none

def next (t : Ticker) : Ticker := { t with due := t.due + t.period }

/-- Whether a tick comes ahead of a stop. When they fall on the same moment, `stopFirst` says which
of the two counts. -/
def goesOn (t : Ticker) (stop : Moment) (stopFirst : Bool) : Bool :=
  t.due < stop || (t.due = stop && !stopFirst)

theorem le_of_goesOn {t : Ticker} {stop : Moment} {stopFirst : Bool}
    (h : t.goesOn stop stopFirst = true) : t.due ≤ stop := by
  simp only [goesOn, Bool.or_eq_true, Bool.and_eq_true, decide_eq_true_eq] at h
  rcases h with h | ⟨h, _⟩
  · exact Nat.le_of_lt h
  · exact Nat.le_of_eq h

end Ticker

namespace Pool
variable {W K H : Type}

/-- What all others do to a pool until a moment. -/
abbrev Others (W K H : Type) := Moment → Pool W K H → Pool W K H

def nobody : Others W K H := fun _ p => p

def await (others : Others W K H) (moment : Moment) (p : Pool W K H) : Pool W K H :=
  let p := others moment p
  { p with broker := { p.broker with now := moment } }

section Classes
variable (cls : DeviceClasses W K H)

/-- One pass of the rescan loop. Passes that change nothing are not logged. -/
def pass (p : Pool W K H) : Pool W K H :=
  let (report, p) := p.rescan cls
  if report.found.isEmpty && report.forgot.isEmpty then p
  else
    let total := p.broker.entries.size
    { p with broker := p.broker.note (.setChanged report.found report.forgot total) }

def rescanUntil (others : Others W K H) (stop : Moment) (stopFirst : Bool) (ticker : Ticker)
    (passes : Nat) (p : Pool W K H) : Nat × Pool W K H :=
  if ticker.goesOn stop stopFirst then
    rescanUntil others stop stopFirst ticker.next (passes + 1)
      ((p.await others ticker.due).pass cls)
  else
    let p := p.await others stop
    (passes, { p with broker := p.broker.note (.loopStopped passes) })
termination_by stop + 1 - ticker.due
decreasing_by
  rename_i h
  have hdue : ticker.due < stop + 1 := Nat.lt_succ_of_le (Ticker.le_of_goesOn h)
  exact Nat.sub_lt_sub_left hdue (Nat.lt_add_of_pos_right ticker.period_pos)

/-- Rescans at once and after each interval until the time is up, and tells how often. There is no
loop without an interval. -/
def runRescans (p : Pool W K H) (interval time : Nat) (others : Others W K H := nobody)
    (stopFirst : Bool := true) : Option (Nat × Pool W K H) :=
  (Ticker.start? p.broker.now interval).map fun ticker =>
    p.rescanUntil cls others (p.broker.now + time) stopFirst ticker 0

end Classes

end Pool

end LeaseBroker
