/-
**Loading a configuration file** (`cfg_load_from_file`, `open_log_file`, the strict getters).

What `json_object_from_file` makes of the file is a `Json`, null when it cannot be read or parsed. The
file of the log is opened by the first line that is logged; memory for its name is always there.

Two settings are read into a variable that a value of the wrong type leaves as it is, and the
statements after it use the variable: these are the `Indeterminate` uses.
-/

import Tchatator.Model.Cfg

namespace Tchatator

/-! ### Getters -/

def int64Max : Int := 9223372036854775807

def int64Min : Int := -9223372036854775808

/-- `json_object_get_int64` of an integer: saturated to 64 bits. -/
def clampInt64 (value : Int) : Int := max int64Min (min int64Max value)

/-- `clamp_uint16`. -/
def clampUint16 (x : Int) : Nat :=
  let t := if x < 0 then 0 else x
  if 65535 < t then 65535 else t.toNat

/-- `json_object_get_uint16_strict`. -/
def jsonObjectGetUint16Strict : Json → Option Nat
  | .int value => some (clampUint16 (clampInt32 value))
  | _ => none

/-- `json_object_get_int64_strict`. -/
def jsonObjectGetInt64Strict : Json → Option Int
  | .int value => some (clampInt64 value)
  | _ => none

/-! ### The log -/

/-- A `FILE *` that is logged to. -/
inductive LogStream
  /-- `STD_LOG_STREAM`, the standard error. -/
  | stdLogStream
  /-- A file that was opened by this name. -/
  | file (name : CString)
deriving DecidableEq

/-- `struct cfg`, with the stream. -/
structure CfgRecord extends Cfg where
  logFile : LogStream

/-- `open_log_file`, where `fopen` succeeds on the given names. -/
def openLogFile (opens : CString → Bool) (cfg : CfgRecord) : CfgRecord :=
  match cfg.logFile, cfg.logFileName with
  | .stdLogStream, some name => if opens name then { cfg with logFile := .file name } else cfg
  | _, _ => cfg

/-! ### The file -/

/-- A use of a variable that nothing has been stored in. -/
inductive Indeterminate
  | logFilename
  | maxMsgLength
deriving DecidableEq

/-- A setting that is read by a strict getter into its own place. -/
def loadSetting {α : Type} (getStrict : Json → Option α) (joCfg : Json) (key : String)
    (previous : α) : α :=
  match jsonObjectObjectGetEx joCfg (clit key) with
  | none => previous
  | some jo => (getStrict jo).getD previous

/-- The branch of `log_file`. -/
def loadLogFile (joCfg : Json) (previous : Option CString) :
    Except Indeterminate (Option CString) :=
  match jsonObjectObjectGetEx joCfg (clit "log_file") with
  | none => .ok previous
  | some jo =>
      match jsonObjectGetStringStrict jo with
      | none => .error .logFilename
      | some logFilename =>
          -- an empty name has its terminator at `val[0]`
          if logFilename.length ≠ 1 ∧ logFilename.headD 0 ≠ 45 then
            .ok (some (cstring logFilename))
          else .ok previous

/-- The branch of `max_msg_length`. -/
def loadMaxMsgLength (joCfg : Json) (previous : Nat) : Except Indeterminate Nat :=
  match jsonObjectObjectGetEx joCfg (clit "max_msg_length") with
  | none => .ok previous
  | some jo =>
      match jsonObjectGetInt64Strict jo with
      | none => .error .maxMsgLength
      | some maxMsgLength => if maxMsgLength < 0 then .ok previous else .ok maxMsgLength.toNat

/-- `cfg_load_from_file`. -/
def cfgLoadFromFile (cfg : CfgRecord) (joCfg : Json) : Except Indeterminate CfgRecord := do
  let logFileName ← loadLogFile joCfg cfg.logFileName
  let backlog := loadSetting jsonObjectGetIntStrict joCfg "backlog" cfg.backlog
  let blockFor := loadSetting jsonObjectGetIntStrict joCfg "block_for" cfg.blockFor
  let maxMsgLength ← loadMaxMsgLength joCfg cfg.maxMsgLength
  let pageInbox := loadSetting jsonObjectGetIntStrict joCfg "page_inbox" cfg.pageInbox
  let pageOutbox := loadSetting jsonObjectGetIntStrict joCfg "page_outbox" cfg.pageOutbox
  let port := loadSetting jsonObjectGetUint16Strict joCfg "port" cfg.port
  let rateLimitH := loadSetting jsonObjectGetIntStrict joCfg "rate_limit_h" cfg.rateLimitH
  let rateLimitM := loadSetting jsonObjectGetIntStrict joCfg "rate_limit_m" cfg.rateLimitM
  return { cfg with
    logFileName := logFileName
    backlog := backlog
    blockFor := blockFor
    maxMsgLength := maxMsgLength
    pageInbox := pageInbox
    pageOutbox := pageOutbox
    port := port
    rateLimitH := rateLimitH
    rateLimitM := rateLimitM }

end Tchatator
