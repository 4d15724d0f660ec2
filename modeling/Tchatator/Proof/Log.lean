/-
**Where the log goes** (`i_cfg_log`, `open_log_file`, `cfg_log_putc`, `cfg_destroy`,
`cfg_load_from_file`).

* `logLines` — the lines that the verbosity lets through, each with what an attempt to open the log
  file that is named by then would get, and what is complained of if it fails; and beside them what
  `cfg_load_from_file` complains of;
* `openLogFileEvents_effects` — a call of `open_log_file` and the line after it are a step of a writer
  that fails over: it is tried again for every line until it succeeds, and never after;
* `written_to_logTarget` — the line is written where the configuration says that the log goes;
* `logRun_effects` — so a run of calls is a run of this writer, whatever is configured in between;
* `loads_silently_iff` — when `cfg_load_from_file` complains of nothing;
* `logRun_ok_iff` — which runs have an outcome;
* **`log_written`** — what is on the files after a whole run: the first lines on the standard error,
  each after two lines about the file that could not be opened, then all others in the file that was
  opened first, which `cfg_destroy` closes; and what `cfg_load_from_file` complains of on the standard
  error, before and after.
-/

import Tchatator.Library.Failover
import Tchatator.Model.Log
import Tchatator.Proof.Configuration

namespace Tchatator

open Failover

/-! ### Lines -/

/-- A line, after what is complained of where the log file cannot be opened. -/
abbrev LogLine := List LogEvent × Bytes

/-- What is logged: a line, or a complaint of `cfg_load_from_file`, which is an aside. -/
abbrev LogEntry := Entry CString LogLine

/-- A line, with the log file that an attempt to open it would get. -/
def attempted (occasion : Occasion) (settings : Cfg) (text : Bytes) : LogEntry :=
  match settings.logFileName, occasion.fopen with
  | none, _ => .line none ([], text)
  | some name, .ok () => .line (some name) ([], text)
  | some _, .error reason => .line none (openLogFileErrors occasion reason, text)

/-- What `cfg_load_from_file` complains of. -/
def complained (loading : Loading) (joCfg : Json) : List LogLine :=
  (cfgLoadFromFileTexts loading joCfg).map fun text => ([], text)

/-- The settings after a configuration file. -/
def loadedSettings (settings : Cfg) (joCfg : Json) : Cfg :=
  match cfgLoadFromFile ⟨settings, .stdLogStream⟩ joCfg with
  | .error _ => settings
  | .ok after => after.toCfg

/-- **The lines of a run**: those the verbosity lets through, the characters, and the complaints. -/
def logLines : Cfg → List LogOp → List LogEntry
  | _, [] => []
  | settings, .log occasion lvl text :: ops =>
      if silenced settings.verbosity lvl then logLines settings ops
      else attempted occasion settings (iVlog occasion.stamp lvl text) :: logLines settings ops
  | settings, .putc occasion c :: ops => attempted occasion settings [c] :: logLines settings ops
  | settings, .setVerbosity verbosity :: ops => logLines { settings with verbosity := verbosity } ops
  | settings, .loadFromFile loading joCfg :: ops =>
      (complained loading joCfg).map .aside ++ logLines (loadedSettings settings joCfg) ops

/-- The two settings that a load uses whatever their type have the right one. -/
def LogOp.Typed : LogOp → Prop
  | .loadFromFile _ joCfg => UsesTyped joCfg
  | _ => True

/-- The file that a stream is. -/
def LogStream.opened? : LogStream → Option CString
  | .stdLogStream => none
  | .file name => some name

/-- What a writer does, as it is done to the files. -/
def logEvents : Effect CString LogLine → List LogEvent
  | .fallback line => line.1 ++ [.written .stdLogStream line.2]
  | .opened name => [.opened name]
  | .primary name line => [.written (.file name) line.2]

/-- A line or a complaint, where it is written before a file is open. -/
def onStdLogStream (entry : LogEntry) : List LogEvent :=
  entry.text.1 ++ [.written .stdLogStream entry.text.2]

/-- The same, where it is written once the file of this name is open. -/
def onceOpened (name : CString) : LogEntry → List LogEvent
  | .line _ line => [.written (.file name) line.2]
  | .aside complaint => onStdLogStream (.aside complaint)

/-- What the writer does once the file is open. -/
theorem onceOpen_events (name : CString) (entries : List LogEntry) :
    (entries.map (Entry.onceOpen name)).flatMap logEvents = entries.flatMap (onceOpened name) := by
  rw [List.flatMap_map]
  refine congrArg (List.flatMap · entries) (funext fun entry => ?_)
  cases entry <;> rfl

/-! ### One call -/

section

variable {cfg after last : CfgRecord} {events : List LogEvent} {ops : List LogOp}

/-- **A line is a step of a writer that fails over**, and leaves the settings alone. -/
theorem openLogFileEvents_effects (occasion : Occasion) (cfg : CfgRecord) (text : Bytes) :
    (openLogFileEvents occasion cfg).2 ++
        [.written (openLogFileEvents occasion cfg).1.logFile text] =
      (effects cfg.logFile.opened? [attempted occasion cfg.toCfg text]).flatMap logEvents ∧
    (openLogFileEvents occasion cfg).1.logFile.opened? =
      cfg.logFile.opened?.or (attempted occasion cfg.toCfg text).attempt ∧
    (openLogFileEvents occasion cfg).1.toCfg = cfg.toCfg := by
  obtain ⟨settings, logFile⟩ := cfg
  unfold openLogFileEvents attempted
  cases logFile with
  | file name =>
    dsimp only
    cases settings.logFileName <;> cases occasion.fopen <;> exact ⟨rfl, rfl, rfl⟩
  | stdLogStream =>
    dsimp only
    cases settings.logFileName <;> cases occasion.fopen <;> exact ⟨rfl, rfl, rfl⟩

/-- What `open_log_file` makes of the configuration is what it was said to. -/
theorem openLogFileEvents_fst (occasion : Occasion) (cfg : CfgRecord) :
    (openLogFileEvents occasion cfg).1 = openLogFile (fun _ => occasion.fopen.isOk) cfg := by
  obtain ⟨settings, logFile⟩ := cfg
  unfold openLogFileEvents openLogFile
  cases logFile with
  | file name => rfl
  | stdLogStream =>
    dsimp only
    cases settings.logFileName with
    | none => rfl
    | some name => cases occasion.fopen <;> rfl

/-- **A line that is let through is written where the log goes**, if its file can be opened. -/
theorem written_to_logTarget {occasion : Occasion} {lvl : LogLvl} (opens : occasion.fopen = .ok ())
    (loud : silenced cfg.verbosity lvl = false) (text : Bytes) :
    .written (logTarget cfg) (iVlog occasion.stamp lvl text) ∈
      (iCfgLog occasion cfg lvl text).2.2 := by
  have isTarget : (openLogFileEvents occasion cfg).1.logFile = logTarget cfg := by
    rw [openLogFileEvents_fst, opens]
    rfl
  unfold iCfgLog
  rw [loud, ← isTarget]
  exact List.mem_append_right _ (List.mem_singleton.mpr rfl)

/-- **A configuration file leaves the stream alone**, and does not depend on it. -/
theorem cfgLoadFromFile_stream {joCfg : Json} (loaded : cfgLoadFromFile cfg joCfg = .ok after) :
    after.logFile = cfg.logFile ∧ after.toCfg = loadedSettings cfg.toCfg joCfg := by
  obtain ⟨isName, isLength, isAfter⟩ := loaded_eq loaded
  have elsewhere : cfgLoadFromFile ⟨cfg.toCfg, .stdLogStream⟩ joCfg =
      .ok { after with logFile := .stdLogStream } := by
    unfold cfgLoadFromFile
    dsimp only
    rw [isName, isLength, isAfter]
    rfl
  refine ⟨by rw [isAfter], ?_⟩
  unfold loadedSettings
  rw [elsewhere]

/-! ### What is complained of -/

/-- A setting is not complained of when it is absent, or its strict getter takes it. -/
theorem typeErrorLines_eq_nil_iff {α : Type} {getStrict : Json → Option α} {expected : JsonType}
    (isStrict : ∀ jo, (getStrict jo).isSome ↔ jsonObjectGetType jo = expected) (joCfg : Json)
    (key : String) :
    typeErrorLines getStrict expected joCfg key = [] ↔
      ∀ jo ∈ jsonObjectObjectGetEx joCfg (clit key), jsonObjectGetType jo = expected := by
  unfold typeErrorLines
  cases jsonObjectObjectGetEx joCfg (clit key) with
  | none => simp
  | some jo =>
    have here := isStrict jo
    dsimp only
    cases got : getStrict jo with
    | none =>
      rw [got] at here
      simpa using here
    | some value =>
      rw [got] at here
      simpa using here

theorem getString_isStrict (jo : Json) :
    (jsonObjectGetStringStrict jo).isSome ↔ jsonObjectGetType jo = .string := by
  cases jo <;> simp [jsonObjectGetStringStrict, jsonObjectGetType]

theorem getInt_isStrict (jo : Json) :
    (jsonObjectGetIntStrict jo).isSome ↔ jsonObjectGetType jo = .int := by
  cases jo <;> simp [jsonObjectGetIntStrict, jsonObjectGetType]

theorem getInt64_isStrict (jo : Json) :
    (jsonObjectGetInt64Strict jo).isSome ↔ jsonObjectGetType jo = .int := by
  cases jo <;> simp [jsonObjectGetInt64Strict, jsonObjectGetType]

theorem getUint16_isStrict (jo : Json) :
    (jsonObjectGetUint16Strict jo).isSome ↔ jsonObjectGetType jo = .int := by
  cases jo <;> simp [jsonObjectGetUint16Strict, jsonObjectGetType]

/-- `max_msg_length` is not complained of when it is absent, or an integer that is not negative. -/
theorem maxMsgLengthLines_eq_nil_iff (joCfg : Json) :
    maxMsgLengthLines joCfg = [] ↔
      ∀ jo ∈ jsonObjectObjectGetEx joCfg (clit "max_msg_length"),
        ∃ given, jo = .int given ∧ 0 ≤ given := by
  unfold maxMsgLengthLines
  rw [List.append_eq_nil_iff, typeErrorLines_eq_nil_iff getInt64_isStrict]
  cases jsonObjectObjectGetEx joCfg (clit "max_msg_length") with
  | none => simp
  | some jo =>
    cases jo with
    | int given =>
      have sameSign : clampInt64 given < 0 ↔ given < 0 := clampInt64_neg_iff
      simp [jsonObjectGetInt64Strict, jsonObjectGetType, sameSign]
    | _ => simp [jsonObjectGetType]

/-- What holds of every setting holds of the eight. -/
theorem forall_intSetting_iff {P : IntSetting → Prop} :
    (∀ setting, P setting) ↔
      P .backlog ∧ P .blockFor ∧ P .maxMsgLength ∧ P .pageInbox ∧ P .pageOutbox ∧ P .port ∧
        P .rateLimitH ∧ P .rateLimitM := by
  constructor
  · exact fun every => ⟨every _, every _, every _, every _, every _, every _, every _, every _⟩
  · rintro ⟨_, _, _, _, _, _, _, _⟩ setting
    cases setting <;> assumption

/-- **`cfg_load_from_file` complains of nothing** exactly when there is a JSON value, the log file is a
text, the other settings are integers, and `max_msg_length` is not negative. -/
theorem loads_silently_iff (loading : Loading) (joCfg : Json) :
    cfgLoadFromFileLines loading joCfg = [] ↔
      jsonObjectGetType joCfg ≠ .null ∧
      (∀ jo ∈ jsonObjectObjectGetEx joCfg (clit "log_file"), jsonObjectGetType jo = .string) ∧
      ∀ setting : IntSetting, ∀ jo ∈ jsonObjectObjectGetEx joCfg (clit setting.key),
        ∃ given, jo = .int given ∧ (setting = .maxMsgLength → 0 ≤ given) := by
  have isInt (key : String) :
      (∀ jo ∈ jsonObjectObjectGetEx joCfg (clit key), jsonObjectGetType jo = .int) ↔
        ∀ jo ∈ jsonObjectObjectGetEx joCfg (clit key), ∃ given, jo = .int given := by
    refine forall₂_congr fun jo _ => ?_
    cases jo <;> simp [jsonObjectGetType]
  have parsed : unparsedLines loading joCfg = [] ↔ jsonObjectGetType joCfg ≠ .null := by
    unfold unparsedLines
    split <;> simp_all
  unfold cfgLoadFromFileLines
  simp only [List.append_eq_nil_iff, parsed, maxMsgLengthLines_eq_nil_iff,
    typeErrorLines_eq_nil_iff getString_isStrict, typeErrorLines_eq_nil_iff getInt_isStrict,
    typeErrorLines_eq_nil_iff getUint16_isStrict, isInt, forall_intSetting_iff, IntSetting.key,
    reduceCtorEq, false_imp_iff, true_imp_iff, and_true, and_assoc]

/-! ### A run -/

/-- A line, and those after it. -/
theorem line_effects (occasion : Occasion) (cfg : CfgRecord) (text : Bytes) (ops : List LogOp)
    (isAfter : (openLogFileEvents occasion cfg).1 = after) :
    ((openLogFileEvents occasion cfg).2 ++ [.written after.logFile text]) ++
        (effects after.logFile.opened? (logLines after.toCfg ops)).flatMap logEvents =
      (effects cfg.logFile.opened?
        (attempted occasion cfg.toCfg text :: logLines cfg.toCfg ops)).flatMap logEvents ∧
    after.logFile.opened?.or ((logLines after.toCfg ops).findSome? Entry.attempt) =
      cfg.logFile.opened?.or
        ((attempted occasion cfg.toCfg text :: logLines cfg.toCfg ops).findSome? Entry.attempt) := by
  obtain ⟨isEvents, isStream, sameSettings⟩ := openLogFileEvents_effects occasion cfg text
  rw [isAfter] at isEvents isStream sameSettings
  refine ⟨?_, ?_⟩
  · rw [isEvents, isStream, sameSettings, ← List.flatMap_append]
    exact congrArg (List.flatMap logEvents) (effects_cons _ _ _).symm
  · rw [isStream, sameSettings, List.findSome?_cons, Option.or_assoc]
    cases (attempted occasion cfg.toCfg text).attempt <;> rfl

/-- The complaints of a configuration file are asides. -/
theorem load_effects (loading : Loading) (cfg : CfgRecord) (joCfg : Json) (later : List LogEntry) :
    (cfgLoadFromFileTexts loading joCfg).map (LogEvent.written .stdLogStream) ++
        (effects cfg.logFile.opened? later).flatMap logEvents =
      (effects cfg.logFile.opened?
        ((complained loading joCfg).map Entry.aside ++ later)).flatMap logEvents ∧
    cfg.logFile.opened?.or (later.findSome? Entry.attempt) =
      cfg.logFile.opened?.or
        (((complained loading joCfg).map Entry.aside ++ later).findSome? Entry.attempt) := by
  constructor
  · rw [effects_asides, List.flatMap_append, List.flatMap_map, complained, List.flatMap_map,
      List.map_eq_flatMap]
    rfl
  · rw [attempt_asides]

/-- **A call is what the writer does for its lines**, if it has any. -/
theorem logStep_effects {op : LogOp} (stepped : logStep cfg op = .ok (after, events))
    (ops : List LogOp) :
    events ++ (effects after.logFile.opened? (logLines after.toCfg ops)).flatMap logEvents =
      (effects cfg.logFile.opened? (logLines cfg.toCfg (op :: ops))).flatMap logEvents ∧
    after.logFile.opened?.or ((logLines after.toCfg ops).findSome? Entry.attempt) =
      cfg.logFile.opened?.or ((logLines cfg.toCfg (op :: ops)).findSome? Entry.attempt) := by
  cases op with
  | log occasion lvl text =>
    have isCall : (iCfgLog occasion cfg lvl text).2 = (after, events) := Except.ok.inj stepped
    have isLines : logLines cfg.toCfg (.log occasion lvl text :: ops) =
        if silenced cfg.verbosity lvl then logLines cfg.toCfg ops
        else attempted occasion cfg.toCfg (iVlog occasion.stamp lvl text) ::
          logLines cfg.toCfg ops := rfl
    unfold iCfgLog at isCall
    rw [isLines]
    by_cases isSilenced : silenced cfg.verbosity lvl = true
    · rw [if_pos isSilenced] at isCall
      rw [if_pos isSilenced]
      cases isCall
      exact ⟨rfl, rfl⟩
    · rw [if_neg isSilenced] at isCall
      rw [if_neg isSilenced]
      cases isCall
      exact line_effects occasion cfg (iVlog occasion.stamp lvl text) ops rfl
  | putc occasion c =>
    cases stepped
    exact line_effects occasion cfg [c] ops rfl
  | setVerbosity verbosity =>
    cases stepped
    exact ⟨rfl, rfl⟩
  | loadFromFile loading joCfg =>
    have isLoad : (cfgLoadFromFile cfg joCfg).map (fun after =>
        (after, (cfgLoadFromFileTexts loading joCfg).map (.written .stdLogStream))) =
        .ok (after, events) := stepped
    cases loaded : cfgLoadFromFile cfg joCfg with
    | error use =>
      rw [loaded] at isLoad
      cases isLoad
    | ok loadedCfg =>
      rw [loaded] at isLoad
      obtain ⟨rfl, rfl⟩ := Prod.mk.inj (Except.ok.inj isLoad)
      obtain ⟨sameStream, isSettings⟩ := cfgLoadFromFile_stream loaded
      rw [sameStream, isSettings]
      exact load_effects loading cfg joCfg _

/-- **A run of calls is a run of a writer that fails over.** -/
theorem logRun_effects (ran : logRun cfg ops = .ok (last, events)) :
    events = (effects cfg.logFile.opened? (logLines cfg.toCfg ops)).flatMap logEvents ∧
      last.logFile.opened? =
        cfg.logFile.opened?.or ((logLines cfg.toCfg ops).findSome? Entry.attempt) := by
  induction ops generalizing cfg events with
  | nil =>
    cases ran
    exact ⟨by cases last.logFile.opened? <;> rfl, (Option.or_none ..).symm⟩
  | cons op ops ih =>
    obtain ⟨⟨next, here⟩, stepped, rest⟩ := bind_eq_ok ran
    obtain ⟨⟨last', later⟩, ranLater, returned⟩ := bind_eq_ok rest
    cases returned
    obtain ⟨isEvents, isStream⟩ := ih ranLater
    obtain ⟨sameEvents, sameStream⟩ := logStep_effects stepped ops
    exact ⟨by rw [isEvents, sameEvents], isStream.trans sameStream⟩

/-- A call has an outcome, unless it is a load that uses what is indeterminate. -/
theorem logStep_ok_iff {op : LogOp} : (∃ result, logStep cfg op = .ok result) ↔ op.Typed := by
  cases op with
  | loadFromFile loading joCfg =>
    show (∃ result, Except.map _ (cfgLoadFromFile cfg joCfg) = .ok result) ↔ UsesTyped joCfg
    rw [← @cfgLoadFromFile_ok_iff cfg]
    cases cfgLoadFromFile cfg joCfg <;> simp [Except.map]
  | _ => exact iff_of_true ⟨_, rfl⟩ trivial

/-- **A run has an outcome** exactly when no load in it uses what is indeterminate. -/
theorem logRun_ok_iff : (∃ result, logRun cfg ops = .ok result) ↔ ∀ op ∈ ops, op.Typed := by
  induction ops generalizing cfg with
  | nil => exact iff_of_true ⟨_, rfl⟩ fun _ none => absurd none List.not_mem_nil
  | cons op ops ih =>
    rw [List.forall_mem_cons, ← @logStep_ok_iff cfg]
    constructor
    · rintro ⟨result, ran⟩
      obtain ⟨⟨next, here⟩, stepped, rest⟩ := bind_eq_ok ran
      obtain ⟨later, ranLater, _⟩ := bind_eq_ok rest
      exact ⟨⟨_, stepped⟩, ih.mp ⟨later, ranLater⟩⟩
    · rintro ⟨⟨⟨next, here⟩, stepped⟩, typed⟩
      obtain ⟨later, ranLater⟩ : ∃ later, logRun next ops = .ok later := ih.mpr typed
      simp only [logRun, stepped, ranLater, bind, Except.bind]
      exact ⟨_, rfl⟩

/-- **What is on the files after a run**, whatever is logged and configured, and whether or not the log
file can be opened, from the standard error on: the lines of the first failed attempts are on the
standard error, each after its complaints; the first file that is opened, if one is, holds all other
lines; no other file is opened, and this one is closed by `cfg_destroy`. What `cfg_load_from_file`
complains of is on the standard error, before and after the file is opened. No load in the run uses
what is indeterminate. -/
theorem log_written (isStd : cfg.logFile = .stdLogStream)
    (typed : ∀ op ∈ ops, op.Typed) :
    ∃ last events, logRun cfg ops = .ok (last, events) ∧
      events ++ cfgDestroyEvents last =
        ((logLines cfg.toCfg ops).takeWhile fun entry => entry.attempt.isNone).flatMap
            onStdLogStream ++
          ((logLines cfg.toCfg ops).findSome? Entry.attempt).elim [] fun name =>
            .opened name ::
              ((logLines cfg.toCfg ops).dropWhile fun entry => entry.attempt.isNone).flatMap
                (onceOpened name) ++ [.closed name] := by
  obtain ⟨⟨last, events⟩, ran⟩ := logRun_ok_iff.mpr typed
  refine ⟨last, events, ran, ?_⟩
  obtain ⟨isEvents, isStream⟩ := logRun_effects ran
  rw [isStd] at isEvents isStream
  have isClosed : cfgDestroyEvents last =
      (last.logFile.opened?.elim [] fun name => [.closed name]) := by
    unfold cfgDestroyEvents
    cases last.logFile <;> rfl
  rw [isClosed, isStream, isEvents]
  show (effects none _).flatMap logEvents ++ _ = _
  rw [effects_none, List.flatMap_append, List.append_assoc, List.flatMap_map]
  cases (logLines cfg.toCfg ops).findSome? Entry.attempt with
  | none => rfl
  | some name =>
    refine congrArg (_ ++ ·) ?_
    show .opened name :: (List.flatMap logEvents _ ++ [.closed name]) = _
    rw [onceOpen_events]
    rfl

end

/-! ### Cases -/

/-- A call at which the file can be opened or not. -/
def testOccasion (opens : Bool) : Occasion :=
  { stamp := lit "1"
    couldNotOpen := lit "2"
    willContinue := lit "3"
    fopen := if opens then .ok () else .error (lit "Permission denied") }

/-- A file that is loaded. -/
def testLoading : Loading :=
  { filename := clit "config.json"
    lastErr := none
    stamps := fun _ => lit "4" }

/-- A line before the file can be opened, one that is silenced, and two after, with a mistyped setting
loaded in between. -/
theorem log_written_denied :
    ∃ last events, logRun { defaultRecord with logFileName := some (clit "l") }
        [.log (testOccasion false) .error (lit "a"), .log (testOccasion true) .info (lit "b"),
          .log (testOccasion true) .warning (lit "c"),
          .loadFromFile testLoading (oneSetting "backlog" (.string (lit "x"))),
          .putc (testOccasion false) 10] =
        .ok (last, events) ∧
      events ++ cfgDestroyEvents last =
        openLogFileErrors (testOccasion false) (lit "Permission denied") ++
          [.written .stdLogStream (lit "1: error: a"), .opened (clit "l"),
            .written (.file (clit "l")) (lit "1: warning: c"),
            .written .stdLogStream
              (lit "4: error: config: json: backlog: type: expected int, got string\n"),
            .written (.file (clit "l")) (lit "\n"), .closed (clit "l")] := by
  have absent : jsonObjectObjectGetEx (oneSetting "backlog" (.string (lit "x")))
        (clit "log_file") = none ∧
      jsonObjectObjectGetEx (oneSetting "backlog" (.string (lit "x"))) (clit "max_msg_length") =
        none := ⟨rfl, rfl⟩
  have typed : UsesTyped (oneSetting "backlog" (.string (lit "x"))) := by
    rw [UsesTyped, absent.1, absent.2]
    exact ⟨fun _ none => (Option.not_mem_none _ none).elim,
      fun _ none => (Option.not_mem_none _ none).elim⟩
  obtain ⟨last, events, ran, written⟩ := @log_written
    { defaultRecord with logFileName := some (clit "l") }
    [.log (testOccasion false) .error (lit "a"), .log (testOccasion true) .info (lit "b"),
      .log (testOccasion true) .warning (lit "c"),
      .loadFromFile testLoading (oneSetting "backlog" (.string (lit "x"))),
      .putc (testOccasion false) 10] rfl
    (by simp [LogOp.Typed, typed])
  exact ⟨last, events, ran, written.trans rfl⟩

end Tchatator
