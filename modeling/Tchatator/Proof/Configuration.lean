/-
**What a configuration file sets** (`cfg_load_from_file`).

* `IntSetting` — the eight settings that are integers, with their keys and getters; `Ranges` — their
  ranges, `documentedRanges` those of `config.json`;
* `loaded_eq` — a load that returns sets every field by itself; `loadLogFile_ok_iff`,
  `loadMaxMsgLength_ok_iff`, `cfgLoadFromFile_ok_iff` — and it returns unless one of two values has the
  wrong type;
* `settingLoaded_iff`, `logLoaded_iff` — what becomes of an integer, and where the log goes;
* **`loadsAsDocumented_iff`** — which files are loaded as documented.
-/

import Tchatator.Model.CfgFile
import Tchatator.Model.TestData
import Tchatator.Proof.Parsing

namespace Tchatator

/-! ### Settings -/

/-- The settings that are integers. -/
inductive IntSetting
  | backlog
  | blockFor
  | maxMsgLength
  | pageInbox
  | pageOutbox
  | port
  | rateLimitH
  | rateLimitM
deriving DecidableEq

namespace IntSetting

def key : IntSetting → String
  | .backlog => "backlog"
  | .blockFor => "block_for"
  | .maxMsgLength => "max_msg_length"
  | .pageInbox => "page_inbox"
  | .pageOutbox => "page_outbox"
  | .port => "port"
  | .rateLimitH => "rate_limit_h"
  | .rateLimitM => "rate_limit_m"

def value (cfg : Cfg) : IntSetting → Int
  | .backlog => cfg.backlog
  | .blockFor => cfg.blockFor
  | .maxMsgLength => cfg.maxMsgLength
  | .pageInbox => cfg.pageInbox
  | .pageOutbox => cfg.pageOutbox
  | .port => cfg.port
  | .rateLimitH => cfg.rateLimitH
  | .rateLimitM => cfg.rateLimitM

/-- A value as the strict getter of the setting gives it. -/
def saturated : IntSetting → Int → Int
  | .maxMsgLength, given => clampInt64 given
  | .port, given => clampUint16 (clampInt32 given)
  | _, given => clampInt32 given

end IntSetting

/-- The ranges of the settings. That of `max_msg_length` is the one `cfg_load_from_file` checks. -/
structure Ranges where
  InRange : IntSetting → Int → Prop
  maxMsgLength : ∀ given, InRange .maxMsgLength given ↔ 0 ≤ given

/-- The ranges of `config.json`. -/
def documentedRanges : Ranges :=
  { InRange := fun setting given => if setting = .port then 1 ≤ given ∧ given ≤ 65535 else 0 ≤ given
    maxMsgLength := fun _ => Iff.rfl }

/-- Where the log goes, if its file can be opened. -/
def logTarget (cfg : CfgRecord) : LogStream := (openLogFile (fun _ => true) cfg).logFile

/-! ### As documented -/

/-- **An integer is set as documented**: it takes the value given, saturated, if that is an integer in
its range, and keeps its value otherwise. -/
def SettingLoaded (ranges : Ranges) (before after : Cfg) (joCfg : Json) (setting : IntSetting) :
    Prop :=
  match jsonObjectObjectGetEx joCfg (clit setting.key) with
  | some (.int given) =>
      (ranges.InRange setting given → setting.value after = setting.saturated given) ∧
        (¬ ranges.InRange setting given → setting.value after = setting.value before)
  | _ => setting.value after = setting.value before

/-- **The log goes where it is documented to go**: to the file of exactly the name given, and to the
standard error if none is given, or `-`. -/
def LogLoaded (before after : CfgRecord) (joCfg : Json) : Prop :=
  match jsonObjectObjectGetEx joCfg (clit "log_file") with
  | some (.string text) =>
      if text = lit "-" then logTarget after = .stdLogStream
      else ∃ name : CString, name.1 = text ∧ logTarget after = .file name
  | _ => after.logFileName = before.logFileName ∧ logTarget after = .stdLogStream

/-- **A file is loaded as documented**, without an indeterminate value. -/
def LoadsAsDocumented (ranges : Ranges) (cfg : CfgRecord) (joCfg : Json) : Prop :=
  ∃ after, cfgLoadFromFile cfg joCfg = .ok after ∧
    (∀ setting, SettingLoaded ranges cfg.toCfg after.toCfg joCfg setting) ∧
    LogLoaded cfg after joCfg

/-- An integer that is set as documented: one in its range, or that is saturated to the value the
setting has already; only for `max_msg_length` does the range not matter, and the type does. -/
def SettingServed (ranges : Ranges) (before : Cfg) (joCfg : Json) (setting : IntSetting) : Prop :=
  match jsonObjectObjectGetEx joCfg (clit setting.key) with
  | none => True
  | some (.int given) => setting = .maxMsgLength ∨ ranges.InRange setting given ∨
      setting.saturated given = setting.value before
  | some _ => setting ≠ .maxMsgLength

/-- A log entry that is heeded: a text without a zero byte that is not of one character and does not
begin with `-`, unless a file is open already; else the log must go where it is asked to before. -/
def LogServed (before : CfgRecord) (joCfg : Json) : Prop :=
  match jsonObjectObjectGetEx joCfg (clit "log_file") with
  | none => logTarget before = .stdLogStream
  | some (.string text) =>
      if text = lit "-" then logTarget before = .stdLogStream
      else (∃ name : CString, name.1 = text ∧ logTarget before = .file name) ∨
        (before.logFile = .stdLogStream ∧ 0 ∉ text ∧ text.length ≠ 1 ∧ text.headD 0 ≠ 45)
  | some _ => False

/-! ### What a load does -/

section Loads

variable {cfg after : CfgRecord} {joCfg : Json}

/-- **A load that returns** sets every field by itself. -/
theorem loaded_eq (loaded : cfgLoadFromFile cfg joCfg = .ok after) :
    loadLogFile joCfg cfg.logFileName = .ok after.logFileName ∧
      loadMaxMsgLength joCfg cfg.maxMsgLength = .ok after.maxMsgLength ∧
      after =
        { cfg with
          logFileName := after.logFileName
          backlog := loadSetting jsonObjectGetIntStrict joCfg "backlog" cfg.backlog
          blockFor := loadSetting jsonObjectGetIntStrict joCfg "block_for" cfg.blockFor
          maxMsgLength := after.maxMsgLength
          pageInbox := loadSetting jsonObjectGetIntStrict joCfg "page_inbox" cfg.pageInbox
          pageOutbox := loadSetting jsonObjectGetIntStrict joCfg "page_outbox" cfg.pageOutbox
          port := loadSetting jsonObjectGetUint16Strict joCfg "port" cfg.port
          rateLimitH := loadSetting jsonObjectGetIntStrict joCfg "rate_limit_h" cfg.rateLimitH
          rateLimitM := loadSetting jsonObjectGetIntStrict joCfg "rate_limit_m" cfg.rateLimitM } := by
  obtain ⟨logFileName, isName, rest⟩ := bind_eq_ok loaded
  obtain ⟨maxMsgLength, isLength, rest⟩ := bind_eq_ok rest
  cases rest
  exact ⟨isName, isLength, rfl⟩

/-- The integer that a file gives under a key. -/
def givenInt (joCfg : Json) (key : String) : Option Int :=
  match jsonObjectObjectGetEx joCfg (clit key) with
  | some (.int given) => some given
  | _ => none

theorem loadSetting_int (joCfg : Json) (key : String) (previous : Int) :
    loadSetting jsonObjectGetIntStrict joCfg key previous =
      ((givenInt joCfg key).map clampInt32).getD previous := by
  unfold loadSetting givenInt
  cases jsonObjectObjectGetEx joCfg (clit key) with
  | none => rfl
  | some jo => cases jo <;> rfl

theorem loadSetting_uint16 (joCfg : Json) (key : String) (previous : Nat) :
    ((loadSetting jsonObjectGetUint16Strict joCfg key previous : Nat) : Int) =
      ((givenInt joCfg key).map fun given => (clampUint16 (clampInt32 given) : Int)).getD
        previous := by
  unfold loadSetting givenInt
  cases jsonObjectObjectGetEx joCfg (clit key) with
  | none => rfl
  | some jo => cases jo <;> rfl

/-- **The value of a setting after a load**, but for `max_msg_length`. -/
theorem value_of_loaded (loaded : cfgLoadFromFile cfg joCfg = .ok after) {setting : IntSetting}
    (other : setting ≠ .maxMsgLength) :
    setting.value after.toCfg =
      ((givenInt joCfg setting.key).map setting.saturated).getD (setting.value cfg.toCfg) := by
  obtain ⟨_, _, isAfter⟩ := loaded_eq loaded
  rw [isAfter]
  cases setting with
  | maxMsgLength => exact absurd rfl other
  | port => exact loadSetting_uint16 joCfg "port" cfg.port
  | backlog => exact loadSetting_int joCfg "backlog" cfg.backlog
  | blockFor => exact loadSetting_int joCfg "block_for" cfg.blockFor
  | pageInbox => exact loadSetting_int joCfg "page_inbox" cfg.pageInbox
  | pageOutbox => exact loadSetting_int joCfg "page_outbox" cfg.pageOutbox
  | rateLimitH => exact loadSetting_int joCfg "rate_limit_h" cfg.rateLimitH
  | rateLimitM => exact loadSetting_int joCfg "rate_limit_m" cfg.rateLimitM

/-- The branch of `log_file` returns when it is absent or a text. -/
theorem loadLogFile_ok_iff {previous : Option CString} :
    (∃ name, loadLogFile joCfg previous = .ok name) ↔
      ∀ jo ∈ jsonObjectObjectGetEx joCfg (clit "log_file"), jsonObjectGetType jo = .string := by
  unfold loadLogFile
  cases jsonObjectObjectGetEx joCfg (clit "log_file") with
  | none => simp
  | some jo =>
    cases jo with
    | string text =>
      refine iff_of_true ?_ (by simp [jsonObjectGetType])
      simp only [jsonObjectGetStringStrict]
      split <;> exact ⟨_, rfl⟩
    | _ => simp [jsonObjectGetStringStrict, jsonObjectGetType]

/-- The branch of `max_msg_length` returns when it is absent or an integer. -/
theorem loadMaxMsgLength_ok_iff {previous : Nat} :
    (∃ length, loadMaxMsgLength joCfg previous = .ok length) ↔
      ∀ jo ∈ jsonObjectObjectGetEx joCfg (clit "max_msg_length"), jsonObjectGetType jo = .int := by
  unfold loadMaxMsgLength
  cases jsonObjectObjectGetEx joCfg (clit "max_msg_length") with
  | none => simp
  | some jo =>
    cases jo with
    | int given =>
      refine iff_of_true ?_ (by simp [jsonObjectGetType])
      simp only [jsonObjectGetInt64Strict]
      split <;> exact ⟨_, rfl⟩
    | _ => simp [jsonObjectGetInt64Strict, jsonObjectGetType]

/-- The two values that are used whatever their type have the right one. -/
def UsesTyped (joCfg : Json) : Prop :=
  (∀ jo ∈ jsonObjectObjectGetEx joCfg (clit "log_file"), jsonObjectGetType jo = .string) ∧
    ∀ jo ∈ jsonObjectObjectGetEx joCfg (clit "max_msg_length"), jsonObjectGetType jo = .int

/-- **A load returns exactly when the two values it uses in any case have the right type.** -/
theorem cfgLoadFromFile_ok_iff :
    (∃ after, cfgLoadFromFile cfg joCfg = .ok after) ↔ UsesTyped joCfg := by
  constructor
  · rintro ⟨after, loaded⟩
    obtain ⟨isName, isLength, _⟩ := loaded_eq loaded
    exact ⟨loadLogFile_ok_iff.mp ⟨_, isName⟩, loadMaxMsgLength_ok_iff.mp ⟨_, isLength⟩⟩
  · rintro ⟨logTyped, lengthTyped⟩
    obtain ⟨name, isName⟩ : ∃ name, loadLogFile joCfg cfg.logFileName = .ok name :=
      loadLogFile_ok_iff.mpr logTyped
    obtain ⟨length, isLength⟩ : ∃ length, loadMaxMsgLength joCfg cfg.maxMsgLength = .ok length :=
      loadMaxMsgLength_ok_iff.mpr lengthTyped
    simp only [cfgLoadFromFile, isName, isLength, bind, Except.bind]
    exact ⟨_, rfl⟩

theorem clampInt64_neg_iff {given : Int} : clampInt64 given < 0 ↔ given < 0 := by
  unfold clampInt64 int64Min int64Max
  omega

/-- **`max_msg_length` is set as documented**, if it has the right type. -/
theorem maxMsgLength_loaded (ranges : Ranges) (loaded : cfgLoadFromFile cfg joCfg = .ok after) :
    SettingLoaded ranges cfg.toCfg after.toCfg joCfg .maxMsgLength ∧
      SettingServed ranges cfg.toCfg joCfg .maxMsgLength := by
  obtain ⟨_, isLength, _⟩ := loaded_eq loaded
  have typed := loadMaxMsgLength_ok_iff.mp ⟨_, isLength⟩
  unfold loadMaxMsgLength at isLength
  unfold SettingLoaded SettingServed IntSetting.key
  cases got : jsonObjectObjectGetEx joCfg (clit "max_msg_length") with
  | none =>
    rw [got] at isLength
    exact ⟨congrArg Nat.cast (Except.ok.inj isLength).symm, trivial⟩
  | some jo =>
    cases jo with
    | int given =>
      simp only [got, jsonObjectGetInt64Strict] at isLength
      refine ⟨⟨fun inRange => ?_, fun outOfRange => ?_⟩, Or.inl rfl⟩
      · have notNegative : ¬ clampInt64 given < 0 := by
          rw [clampInt64_neg_iff]
          exact Int.not_lt.mpr ((ranges.maxMsgLength given).mp inRange)
        rw [if_neg notNegative] at isLength
        have isValue := Except.ok.inj isLength
        show ((after.maxMsgLength : Nat) : Int) = clampInt64 given
        omega
      · have negative : clampInt64 given < 0 := by
          rw [clampInt64_neg_iff]
          exact Int.not_le.mp (mt (ranges.maxMsgLength given).mpr outOfRange)
        rw [if_pos negative] at isLength
        exact congrArg Nat.cast (Except.ok.inj isLength).symm
    | _ => cases typed _ got

/-- **An integer is set as documented exactly when it is served.** -/
theorem settingLoaded_iff (ranges : Ranges) (loaded : cfgLoadFromFile cfg joCfg = .ok after)
    (setting : IntSetting) :
    SettingLoaded ranges cfg.toCfg after.toCfg joCfg setting ↔
      SettingServed ranges cfg.toCfg joCfg setting := by
  by_cases isLength : setting = .maxMsgLength
  · subst isLength
    obtain ⟨isLoaded, served⟩ := maxMsgLength_loaded ranges loaded
    exact iff_of_true isLoaded served
  have isValue := value_of_loaded loaded isLength
  unfold givenInt at isValue
  unfold SettingLoaded SettingServed
  cases got : jsonObjectObjectGetEx joCfg (clit setting.key) with
  | none =>
    rw [got] at isValue
    exact iff_of_true isValue trivial
  | some jo =>
    rw [got] at isValue
    cases jo with
    | int given =>
      have taken : setting.value after.toCfg = setting.saturated given := isValue
      simp only [taken, or_iff_right isLength]
      constructor
      · rintro ⟨_, kept⟩
        exact or_iff_not_imp_left.mpr kept
      · intro served
        exact ⟨fun _ => trivial, fun outOfRange => served.resolve_left outOfRange⟩
    | _ => exact iff_of_true isValue isLength

/-! ### The log -/

theorem logTarget_std (isStd : cfg.logFile = .stdLogStream) :
    logTarget cfg = (cfg.logFileName.map LogStream.file).getD .stdLogStream := by
  unfold logTarget openLogFile
  rw [isStd]
  cases isName : cfg.logFileName with
  | none => exact isStd
  | some name => rfl

theorem logTarget_file {name : CString} (isFile : cfg.logFile = .file name) :
    logTarget cfg = .file name := by
  unfold logTarget openLogFile
  rw [isFile]
  exact isFile

/-- One name on one stream is one target. -/
theorem logTarget_congr (sameStream : after.logFile = cfg.logFile)
    (sameName : after.logFileName = cfg.logFileName) : logTarget after = logTarget cfg := by
  cases stream : cfg.logFile with
  | stdLogStream =>
    rw [logTarget_std (sameStream.trans stream), logTarget_std stream, sameName]
  | file name => rw [logTarget_file (sameStream.trans stream), logTarget_file stream]

/-- **The log goes where it is documented to go exactly when its entry is heeded.** -/
theorem logLoaded_iff (loaded : cfgLoadFromFile cfg joCfg = .ok after) :
    LogLoaded cfg after joCfg ↔ LogServed cfg joCfg := by
  obtain ⟨isName, _, isAfter⟩ := loaded_eq loaded
  have typed := loadLogFile_ok_iff.mp ⟨_, isName⟩
  have sameStream : after.logFile = cfg.logFile := by rw [isAfter]
  unfold loadLogFile at isName
  unfold LogLoaded LogServed
  cases got : jsonObjectObjectGetEx joCfg (clit "log_file") with
  | none =>
    rw [got] at isName
    have same : after.logFileName = cfg.logFileName := (Except.ok.inj isName).symm
    simp only [same, logTarget_congr sameStream same, true_and]
  | some jo =>
    cases jo with
    | string text =>
      simp only [got, jsonObjectGetStringStrict] at isName
      by_cases heeded : text.length ≠ 1 ∧ text.headD 0 ≠ 45
      · rw [if_pos heeded] at isName
        have notDash : text ≠ lit "-" := fun isDash => heeded.1 (congrArg List.length isDash)
        simp only [if_neg notDash]
        cases stream : cfg.logFile with
        | stdLogStream =>
          have target : logTarget after = .file (cstring text) := by
            rw [logTarget_std (sameStream.trans stream), ← Except.ok.inj isName]
            rfl
          rw [target]
          constructor
          · rintro ⟨name, rfl, _⟩
            exact Or.inr ⟨rfl, name.2, heeded⟩
          · intro served
            have plain : 0 ∉ text := by
              rcases served with ⟨name, rfl, _⟩ | ⟨_, plain, _⟩
              · exact name.2
              · exact plain
            exact ⟨cstring text, cstring_of_no_zero plain, rfl⟩
        | file name =>
          rw [logTarget_file (sameStream.trans stream), logTarget_file stream]
          have notStd : ¬ (LogStream.file name = .stdLogStream ∧ 0 ∉ text ∧ text.length ≠ 1 ∧
              text.headD 0 ≠ 45) := by
            rintro ⟨⟨⟩, _⟩
          exact (or_iff_left notStd).symm
      · rw [if_neg heeded] at isName
        rw [logTarget_congr sameStream (Except.ok.inj isName).symm]
        have notServed : ¬ (cfg.logFile = .stdLogStream ∧ 0 ∉ text ∧ text.length ≠ 1 ∧
            text.headD 0 ≠ 45) := fun served => heeded served.2.2
        simp only [or_iff_left notServed]
    | _ => cases typed _ got

/-- A load of served settings returns: nothing indeterminate is used. -/
theorem load_of_served {ranges : Ranges}
    (settings : ∀ setting, SettingServed ranges cfg.toCfg joCfg setting)
    (log : LogServed cfg joCfg) : ∃ after, cfgLoadFromFile cfg joCfg = .ok after := by
  refine cfgLoadFromFile_ok_iff.mpr ⟨fun jo got => ?_, fun jo got => ?_⟩
  · unfold LogServed at log
    rw [got] at log
    cases jo with
    | string text => rfl
    | _ => exact log.elim
  · have served := settings .maxMsgLength
    unfold SettingServed IntSetting.key at served
    rw [got] at served
    cases jo with
    | int given => rfl
    | _ => exact absurd rfl served

/-- **A file is loaded as documented exactly when every integer is served and the log entry is
heeded.** -/
theorem loadsAsDocumented_iff (ranges : Ranges) (cfg : CfgRecord) (joCfg : Json) :
    LoadsAsDocumented ranges cfg joCfg ↔
      (∀ setting, SettingServed ranges cfg.toCfg joCfg setting) ∧ LogServed cfg joCfg := by
  constructor
  · rintro ⟨after, loaded, settings, log⟩
    exact ⟨fun setting => (settingLoaded_iff ranges loaded setting).mp (settings setting),
      (logLoaded_iff loaded).mp log⟩
  · rintro ⟨settings, log⟩
    obtain ⟨after, loaded⟩ := load_of_served settings log
    exact ⟨after, loaded,
      fun setting => (settingLoaded_iff ranges loaded setting).mpr (settings setting),
      (logLoaded_iff loaded).mpr log⟩

end Loads

/-- The default configuration, which logs to the standard error. -/
def defaultRecord : CfgRecord := { testCfg with logFile := .stdLogStream }

/-- A configuration file with one setting. -/
def oneSetting (key : String) (value : Json) : Json := .object [(clit key, value)]

/-- A mistyped `log_file` and a mistyped `max_msg_length` make it use what is indeterminate, a log
file with a name of one character is not opened, and a negative number of messages a page is taken. -/
theorem files_not_loaded :
    ¬ LoadsAsDocumented documentedRanges defaultRecord (oneSetting "log_file" (.int 5)) ∧
      ¬ LoadsAsDocumented documentedRanges defaultRecord
        (oneSetting "max_msg_length" (.string (lit "1000"))) ∧
      ¬ LoadsAsDocumented documentedRanges defaultRecord
        (oneSetting "log_file" (.string (lit "l"))) ∧
      ¬ LoadsAsDocumented documentedRanges defaultRecord
        (oneSetting "page_inbox" (.int (-5))) := by
  refine ⟨?_, ?_, ?_, ?_⟩
  · rintro ⟨after, loaded, _⟩
    have stops : cfgLoadFromFile defaultRecord (oneSetting "log_file" (.int 5)) =
      .error .logFilename := rfl
    cases stops.symm.trans loaded
  · rintro ⟨after, loaded, _⟩
    have stops : cfgLoadFromFile defaultRecord (oneSetting "max_msg_length"
      (.string (lit "1000"))) = .error .maxMsgLength := rfl
    cases stops.symm.trans loaded
  · rintro ⟨after, loaded, _, log⟩
    rcases (logLoaded_iff loaded).mp log with ⟨_, _, target⟩ | ⟨_, _, long, _⟩
    · cases target
    · exact long rfl
  · rintro ⟨after, loaded, settings, _⟩
    rcases (settingLoaded_iff documentedRanges loaded .pageInbox).mp (settings .pageInbox) with
      isLength | inRange | same
    · cases isLength
    · have negative : ¬ (0 : Int) ≤ -5 := by decide
      exact negative inRange
    · exact absurd same (by decide)

end Tchatator
