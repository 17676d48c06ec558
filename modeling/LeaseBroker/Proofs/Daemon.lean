import LeaseBroker.Proofs.LogSettings

/-!
# Which settings can be run

Settings that are accepted bring the daemon as far as its rescan loop. Whether the loop starts
depends on the interval between rescans alone: there is no timer without a period. The check asks
nothing of the interval, so settings without one are accepted as well.
-/

set_option autoImplicit false

namespace LeaseBroker

namespace Pool
variable {W K H : Type} (cls : DeviceClasses W K H) (others : Others W K H) (stopFirst : Bool)

theorem le_rescanUntil (stop : Moment) (ticker : Ticker) (passes : Nat) (p : Pool W K H) :
    passes ≤ (p.rescanUntil cls others stop stopFirst ticker passes).1 := by
  fun_induction rescanUntil with
  | case1 ticker passes p hgoes ih => exact Nat.le_of_succ_le ih
  | case2 => exact Nat.le_refl _

/-- Whether the rescan loop starts and makes its first pass: it goes on from what that pass leaves
when the timer is due again, and counts the pass. -/
def Starts (p : Pool W K H) (interval time : Nat) : Prop :=
  ∃ (ticker : Ticker) (count : Nat) (last : Pool W K H), 0 < count ∧
    ticker.due = p.broker.now + interval ∧
    p.runRescans cls interval time others stopFirst = some (count, last) ∧
    ((p.await others p.broker.now).pass cls).rescanUntil cls others (p.broker.now + time) stopFirst
      ticker 1 = (count, last)

theorem runRescans_zero (p : Pool W K H) (time : Nat) :
    p.runRescans cls 0 time others stopFirst = none := by
  rfl

theorem starts_iff {p : Pool W K H} {interval time : Nat} (htime : 0 < time) :
    p.Starts cls others stopFirst interval time ↔ interval ≠ 0 := by
  constructor
  · rintro ⟨_, _, _, _, _, hrun, _⟩ rfl
    rw [runRescans_zero] at hrun
    cases hrun
  · intro hinterval
    have hpos : 0 < interval := Nat.pos_of_ne_zero hinterval
    let ticker : Ticker := ⟨p.broker.now, interval, hpos⟩
    have hgoes : ticker.goesOn (p.broker.now + time) stopFirst = true := by
      have hdue : p.broker.now < p.broker.now + time := Nat.lt_add_of_pos_right htime
      simp [Ticker.goesOn, ticker, hdue]
    refine ⟨ticker.next, _, _, ?_, rfl, ?_, rfl⟩
    · exact le_rescanUntil cls others stopFirst _ _ 1 _
    · rw [runRescans, Ticker.start?, dif_pos hpos, Option.map_some, rescanUntil, if_pos hgoes]

end Pool

namespace Settings
variable {s : Settings}

/-! ### Settings that are accepted -/

theorem Consistent.start_daemon (h : s.Consistent) (surroundings : Surroundings)
    {args : List String} {path : String} (hargs : Arguments.parse args = .ok ⟨path, .daemon⟩)
    (hload : load (surroundings.text? path) surroundings.environment = .ok s) (pick : Nat) :
    Program.start args surroundings pick =
      .rescanning (Command.pool surroundings s) s.broker.period := by
  simp only [Program.start, hargs, h.loadSettings hload, Command.output]

def withInterval (s : Settings) (interval : Nat) : Settings :=
  { s with broker := { s.broker with rescanInterval := interval } }

/-- Settings that are accepted bring the daemon to its rescan loop. The loop starts and makes its
first pass exactly if their interval is not zero. They are accepted with any other interval too. -/
theorem accepted_starts_unless_zero (haccepted : s.check = .ok ()) :
    (∀ args path surroundings pick, Arguments.parse args = .ok ⟨path, .daemon⟩ →
      load (surroundings.text? path) surroundings.environment = .ok s →
      Program.start args surroundings pick =
        .rescanning (Command.pool surroundings s) s.broker.period) ∧
    (∀ surroundings (others : Pool.Others Bench DeviceClass Handle) stopFirst time, 0 < time →
      ((Command.pool surroundings s).Starts Bench.classes others stopFirst s.broker.period time ↔
        s.broker.rescanInterval ≠ 0)) ∧
    ∀ interval, (s.withInterval interval).check = .ok () := by
  refine ⟨?_, ?_, fun _ => haccepted⟩
  · intro args path surroundings pick hargs hload
    exact (consistent_of_check haccepted).start_daemon surroundings hargs hload pick
  · intro surroundings others stopFirst time htime
    rw [Pool.starts_iff Bench.classes others stopFirst htime, BrokerSettings.period]
    omega

def around (text : String) : Surroundings := ⟨fun _ => some text, fun _ => none, []⟩

def eager : Settings := ({} : Settings).withInterval 1

theorem accepted_starts_unless_zero_eager :
    eager.check = .ok () ∧
    Program.start ["daemon"] (around "[broker]\nrescan_interval_secs = 1\n") 0 =
      .rescanning (Command.pool (around "[broker]\nrescan_interval_secs = 1\n") eager) 1000 ∧
    (Command.pool (around "[broker]\nrescan_interval_secs = 1\n") eager).Starts
      Bench.classes Pool.nobody true 1000 1 := by
  have hcheck : eager.check = .ok () := by decide +kernel
  have hload : load (some "[broker]\nrescan_interval_secs = 1\n") [] = .ok eager :=
    load_eq_ok (by decide +kernel)
  obtain ⟨hstart, hloop, _⟩ := accepted_starts_unless_zero hcheck
  refine ⟨hcheck, hstart ["daemon"] "config/devpool.toml" _ 0 rfl hload, ?_⟩
  exact (hloop _ Pool.nobody true 1 Nat.one_pos).mpr (by decide)

def restless : Settings := ({} : Settings).withInterval 0

/-- A file can say that there is no pause between rescans. The settings are accepted, and the daemon
comes to a loop that never starts. -/
theorem restless_accepted :
    load (some "[broker]\nrescan_interval_secs = 0\n") [] = .ok restless ∧
    restless.check = .ok () ∧
    (∃ pool, Program.start ["daemon"] (around "[broker]\nrescan_interval_secs = 0\n") 0 =
        .rescanning pool 0 ∧
      ∀ time, pool.runRescans Bench.classes 0 time = none) ∧
    ¬ ∀ s : Settings, s.check = .ok () → 0 < s.broker.period := by
  have hload : load (some "[broker]\nrescan_interval_secs = 0\n") [] = .ok restless :=
    load_eq_ok (by decide +kernel)
  have hcheck : restless.check = .ok () := by decide +kernel
  have hargs : Arguments.parse ["daemon"] = .ok ⟨"config/devpool.toml", .daemon⟩ := rfl
  have hperiod : restless.broker.period = 0 := rfl
  have hstart := (consistent_of_check hcheck).start_daemon
    (around "[broker]\nrescan_interval_secs = 0\n") hargs hload 0
  rw [hperiod] at hstart
  refine ⟨hload, hcheck, ⟨_, hstart, ?_⟩, ?_⟩
  · exact Pool.runRescans_zero Bench.classes Pool.nobody true _
  · intro hall
    have hpause := hall restless hcheck
    rw [hperiod] at hpause
    exact absurd hpause (Nat.lt_irrefl 0)

end Settings

end LeaseBroker
