import LeaseBroker.CommandLine.Run
import LeaseBroker.Proofs.Consistency

/-!
# What accepted settings log

The check of settings and the reader of log settings have rules of their own for letters. The check
lowers a level as it would any text, and takes a format only as it stands. The reader knows no
letters of a level but those of ASCII, takes a number for one as well, and lowers a format. Still it
reads whatever the check accepts, and as what it says.
-/

set_option autoImplicit false

namespace LeaseBroker

namespace Text

theorem toLower_of_lt {c : Char} (h : c.toNat < 65) : c.toLower = c := by
  refine dif_neg ?_
  rintro ⟨hge, _⟩
  have hcapital : 65 ≤ c.toNat := hge
  omega

theorem unsigned?_of_letter {s : String} {c : Char} {rest : List Char} (hs : s.toList = c :: rest)
    (hletter : 65 ≤ c.toNat) : unsigned? s = none := by
  have hplus : c ≠ '+' := by
    rintro rfl
    exact absurd hletter (by decide)
  have hdigit : c.isDigit = false := by
    refine Bool.eq_false_iff.mpr fun h => ?_
    simp only [Char.isDigit, Bool.and_eq_true, decide_eq_true_eq] at h
    have hnine : c.toNat ≤ 57 := h.2
    omega
  have hread : readNumeral s = readDigits 0 (c :: rest) := by
    unfold readNumeral
    rw [hs]
    split <;> simp_all
  rw [unsigned?, hread, readDigits, hdigit]
  rfl

end Text

/-! ### Levels and formats by their names -/

namespace Severity
variable {name : String} {level : Severity}

def word : Severity → String
  | trace => "trace"
  | debug => "debug"
  | info => "info"
  | warn => "warn"
  | error => "error"

theorem toLower_name (level : Severity) : level.name.toLower = level.word := by
  have hletters : level.name.toLower.toList = level.name.toList.map Char.toLower :=
    String.toList_map
  apply String.toList_inj.mp
  rw [hletters]
  cases level <;> rfl

theorem exists_of_mem_levelNames (h : name ∈ Settings.levelNames) :
    ∃ level : Severity, level.word = name := by
  simp only [Settings.levelNames, List.mem_cons, List.not_mem_nil, or_false] at h
  rcases h with rfl | rfl | rfl | rfl | rfl
  · exact ⟨trace, rfl⟩
  · exact ⟨debug, rfl⟩
  · exact ⟨info, rfl⟩
  · exact ⟨warn, rfl⟩
  · exact ⟨error, rfl⟩

theorem word_begins (level : Severity) :
    ∃ (c : Char) (rest : List Char), level.word.toList = c :: rest ∧ 97 ≤ c.toNat := by
  cases level with
  | trace => exact ⟨'t', "race".toList, rfl, by decide⟩
  | debug => exact ⟨'d', "ebug".toList, rfl, by decide⟩
  | info => exact ⟨'i', "nfo".toList, rfl, by decide⟩
  | warn => exact ⟨'w', "arn".toList, rfl, by decide⟩
  | error => exact ⟨'e', "rror".toList, rfl, by decide⟩

/-- A level is read by its word in any case of ASCII letters, and never as a number. -/
theorem ofText?_eq (h : name.toLower = level.word) : ofText? name = some level := by
  have hname : ofName? name = some level := by
    unfold ofName?
    rw [h]
    cases level <;> rfl
  obtain ⟨c, rest, hword, hletter⟩ := level.word_begins
  have hlowered : name.toList.map Char.toLower = c :: rest := by
    rw [← hword, ← h]
    exact String.toList_map.symm
  obtain ⟨first, others, hs, rfl, _⟩ := List.map_eq_cons_iff.mp hlowered
  have hfirst : 65 ≤ first.toNat := by
    by_contra hlt
    rw [Text.toLower_of_lt (Nat.lt_of_not_le hlt)] at hletter
    omega
  rw [ofText?, Text.unsigned?_of_letter hs hfirst, hname]
  rfl

end Severity

theorem LogFormat.exists_of_mem_formatNames {name : String} (h : name ∈ Settings.formatNames) :
    ∃ format : LogFormat, format.name = name ∧ ofName? name = some format := by
  simp only [Settings.formatNames, List.mem_cons, List.not_mem_nil, or_false] at h
  rcases h with rfl | rfl | rfl
  · exact ⟨pretty, rfl, rfl⟩
  · exact ⟨compact, rfl, rfl⟩
  · exact ⟨json, rfl, rfl⟩

namespace Settings
variable {s : Settings}

theorem Consistent.log (h : s.Consistent) : ∃ log, LogSettings.ofSettings s = .ok log ∧
    s.application.logLevel.toLower = log.level.word ∧
    s.application.logFormat = log.format.name := by
  have hword : s.application.logLevel.toLower ∈ levelNames :=
    (lowercase_mem_levelNames _).mp h.level
  obtain ⟨level, hlevel⟩ := Severity.exists_of_mem_levelNames hword
  obtain ⟨format, hname, hformat⟩ := LogFormat.exists_of_mem_formatNames h.format
  refine ⟨{ level, format }, ?_, hlevel.symm, hname.symm⟩
  simp only [LogSettings.ofSettings, Severity.ofText?_eq hlevel.symm, LogFormat.ofText, hformat,
    Except.map]

theorem Consistent.loadSettings (h : s.Consistent) {surroundings : Surroundings} {path : String}
    (hload : load (surroundings.text? path) surroundings.environment = .ok s) :
    Command.loadSettings surroundings path = .ok s := by
  obtain ⟨log, hlog, _⟩ := h.log
  simp only [Command.loadSettings, hload, h.check_eq, hlog]

/-- Settings that are accepted say what to log: at the level that has their name for it but for the
case of letters, be these any letters or those of ASCII, and in the format that has their name for
it. Colours come with the pretty format only. So settings that are loaded and accepted are what the
program goes on with. -/
theorem accepted_log (haccepted : s.check = .ok ()) :
    (∃ log, LogSettings.ofSettings s = .ok log ∧
      Unicode.lowercase s.application.logLevel = Unicode.lowercase log.level.name ∧
      s.application.logLevel.toLower = log.level.name.toLower ∧
      s.application.logFormat = log.format.name ∧
      (log.coloured = true ↔ log.format = .pretty)) ∧
    ∀ (surroundings : Surroundings) (path : String),
      load (surroundings.text? path) surroundings.environment = .ok s →
      Command.loadSettings surroundings path = .ok s := by
  have hconsistent := consistent_of_check haccepted
  obtain ⟨log, hlog, hlevel, hformat⟩ := hconsistent.log
  have hplain : Unicode.IsPlainWord log.level.word := by
    cases log.level <;> decide +kernel
  have hname : Unicode.lowercase log.level.name = log.level.word :=
    (Unicode.lowercase_eq_iff hplain _).mpr log.level.toLower_name
  have hlowered : Unicode.lowercase s.application.logLevel = log.level.word :=
    (Unicode.lowercase_eq_iff hplain _).mpr hlevel
  refine ⟨⟨log, hlog, hlowered.trans hname.symm, hlevel.trans log.level.toLower_name.symm, hformat,
    ?_⟩, ?_⟩
  · rw [LogSettings.coloured, decide_eq_true_eq]
  · exact fun surroundings path hload => hconsistent.loadSettings hload

def shouting : Settings := { application := { logLevel := "WaRN", logFormat := "compact" } }

theorem accepted_log_shouting :
    shouting.check = .ok () ∧
    (∃ log, LogSettings.ofSettings shouting = .ok log ∧ log.level.name = "WARN" ∧
      log.format = .compact ∧ log.coloured = false) ∧
    Command.loadSettings ⟨fun _ => some
      "[application]\nlog_level = \"WaRN\"\nlog_format = \"compact\"\n", fun _ => none, []⟩ "" =
      .ok shouting := by
  have hcheck : shouting.check = .ok () := by decide +kernel
  obtain ⟨⟨log, hlog, _, hlevel, hformat, hcoloured⟩, hload⟩ := accepted_log hcheck
  have hcompact : log.format = .compact := by
    revert hformat
    cases log.format <;> decide
  refine ⟨hcheck, ⟨log, hlog, ?_, hcompact, ?_⟩, hload _ "" (load_eq_ok (by decide +kernel))⟩
  · have hwarn : shouting.application.logLevel.toLower = Severity.warn.word :=
      String.toList_inj.mp String.toList_map
    rw [hwarn, log.level.toLower_name] at hlevel
    revert hlevel
    cases log.level <;> decide
  · rw [← Bool.not_eq_true, hcoloured, hcompact]
    decide

end Settings

end LeaseBroker
