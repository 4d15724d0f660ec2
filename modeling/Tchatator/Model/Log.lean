/-
**The log** (`i_cfg_log`, `open_log_file`, `cfg_log_putc`, `cfg_destroy`, `cfg_load_from_file`).

A line is written to the stream that `open_log_file` leaves in the configuration. What a call finds on
the system is an `Occasion`: what stands before each line (its time, its file and its line number), and
what `fopen` returns if it is called. The complaints of `cfg_load_from_file` do not go this way: they
are written to the standard error, whatever the verbosity and whatever is open.
-/

import Tchatator.Model.CfgFile
import Tchatator.Model.Slurp

namespace Tchatator

/-- `log_lvl_t`. -/
inductive LogLvl
  | error
  | warning
  | info
  | debug
deriving DecidableEq

/-- What `i_vlog` puts before the text of a line. -/
def LogLvl.label : LogLvl → Bytes
  | .error => lit "error: "
  | .warning => lit "warning: "
  | .info => lit "info: "
  | .debug => lit "debug: "

/-- A call of the log, as the system finds it. -/
structure Occasion where
  /-- Time, file and line number, of the line that is logged. -/
  stamp : Bytes
  /-- The same of the two lines of `open_log_file`. -/
  couldNotOpen : Bytes
  willContinue : Bytes
  /-- What `fopen` returns: a file, or nothing and `strerror(errno)`. -/
  fopen : Except Bytes Unit

/-- A call of `cfg_load_from_file`, as the system finds it. -/
structure Loading where
  filename : CString
  /-- `json_util_get_last_err`. -/
  lastErr : Option Bytes
  /-- Time, file and line number, of the lines that are logged, in order. -/
  stamps : Nat → Bytes

/-- What happens to the files. -/
inductive LogEvent
  | opened (name : CString)
  | written (stream : LogStream) (text : Bytes)
  | closed (name : CString)

/-- `i_vlog`. -/
def iVlog (stamp : Bytes) (lvl : LogLvl) (text : Bytes) : Bytes :=
  stamp ++ lit ": " ++ lvl.label ++ text

/-- The lines of `open_log_file`, when the file cannot be opened. The second does not end. -/
def openLogFileErrors (occasion : Occasion) (reason : Bytes) : List LogEvent :=
  [.written .stdLogStream (iVlog occasion.couldNotOpen .error
      (lit "config: could not open log file: " ++ reason ++ lit "\n")),
    .written .stdLogStream (iVlog occasion.willContinue .info
      (lit "config: logging will continue on stderr"))]

/-- `open_log_file`, with what it does to the files. -/
def openLogFileEvents (occasion : Occasion) (cfg : CfgRecord) : CfgRecord × List LogEvent :=
  match cfg.logFile, cfg.logFileName with
  | .stdLogStream, some name =>
      match occasion.fopen with
      | .ok () => ({ cfg with logFile := .file name }, [.opened name])
      | .error reason => (cfg, openLogFileErrors occasion reason)
  | _, _ => (cfg, [])

/-- The levels that `i_cfg_log` leaves out. -/
def silenced (verbosity : Int) (lvl : LogLvl) : Bool :=
  (lvl = .warning ∧ verbosity < 0) ∨ (lvl = .info ∧ verbosity ≤ 0) ∨
    (lvl = .debug ∧ verbosity ≠ intMax)

/-- `i_cfg_log`: whether it has logged the line, and what it does. -/
def iCfgLog (occasion : Occasion) (cfg : CfgRecord) (lvl : LogLvl) (text : Bytes) :
    Bool × CfgRecord × List LogEvent :=
  if silenced cfg.verbosity lvl then (false, cfg, [])
  else
    let (after, events) := openLogFileEvents occasion cfg
    (true, after, events ++ [.written after.logFile (iVlog occasion.stamp lvl text)])

/-- `cfg_log_putc`. -/
def cfgLogPutc (occasion : Occasion) (cfg : CfgRecord) (c : UInt8) : CfgRecord × List LogEvent :=
  let (after, events) := openLogFileEvents occasion cfg
  (after, events ++ [.written after.logFile [c]])

/-- `cfg_destroy`, as far as the files are concerned. -/
def cfgDestroyEvents (cfg : CfgRecord) : List LogEvent :=
  match cfg.logFile with
  | .stdLogStream => []
  | .file name => [.closed name]

/-! ### What `cfg_load_from_file` logs -/

/-- `LOG_FMT_JSON_C`. -/
def logFmtJsonC (lastErr : Option Bytes) (text : Bytes) : Bytes :=
  lit "json-c: " ++ text ++ lit ": " ++ lastErr.getD (lit "(null)\n")

/-- `LOG_FMT_JSON_TYPE`. -/
def logFmtJsonType (expected actual : JsonType) (text : Bytes) : Bytes :=
  lit "json: " ++ text ++ lit ": type: expected " ++ jsonTypeToName expected ++ lit ", got " ++
    jsonTypeToName actual ++ lit "\n"

/-- The type error of a setting whose strict getter fails. -/
def typeErrorLines {α : Type} (getStrict : Json → Option α) (expected : JsonType) (joCfg : Json)
    (key : String) : List (LogLvl × Bytes) :=
  match jsonObjectObjectGetEx joCfg (clit key) with
  | none => []
  | some jo =>
      match getStrict jo with
      | some _ => []
      | none =>
          [(.error, lit "config: " ++ logFmtJsonType expected (jsonObjectGetType jo) (lit key))]

/-- The lines of the branch of `max_msg_length`. -/
def maxMsgLengthLines (joCfg : Json) : List (LogLvl × Bytes) :=
  typeErrorLines jsonObjectGetInt64Strict .int joCfg "max_msg_length" ++
    match (jsonObjectObjectGetEx joCfg (clit "max_msg_length")).bind jsonObjectGetInt64Strict with
    | none => []
    | some maxMsgLength =>
        if maxMsgLength < 0 then [(.error, lit "config: max_msg_length: must be > 0\n")] else []

/-- The lines about a file that is not there, or that is no JSON. -/
def unparsedLines (loading : Loading) (joCfg : Json) : List (LogLvl × Bytes) :=
  if jsonObjectGetType joCfg = .null then
    [(.error, lit "config: " ++ logFmtJsonC loading.lastErr
        (lit "failed to parse config file at '" ++ loading.filename.1 ++ lit "'")),
      (.info, lit "config: using defaults\n")]
  else []

/-- **The lines that `cfg_load_from_file` logs**, in order. -/
def cfgLoadFromFileLines (loading : Loading) (joCfg : Json) : List (LogLvl × Bytes) :=
  unparsedLines loading joCfg ++
    typeErrorLines jsonObjectGetStringStrict .string joCfg "log_file" ++
    typeErrorLines jsonObjectGetIntStrict .int joCfg "backlog" ++
    typeErrorLines jsonObjectGetIntStrict .int joCfg "block_for" ++
    maxMsgLengthLines joCfg ++
    typeErrorLines jsonObjectGetIntStrict .int joCfg "page_inbox" ++
    typeErrorLines jsonObjectGetIntStrict .int joCfg "page_outbox" ++
    typeErrorLines jsonObjectGetUint16Strict .int joCfg "port" ++
    typeErrorLines jsonObjectGetIntStrict .int joCfg "rate_limit_h" ++
    typeErrorLines jsonObjectGetIntStrict .int joCfg "rate_limit_m"

/-- The texts of the lines, as `i_log` writes them. -/
def cfgLoadFromFileTexts (loading : Loading) (joCfg : Json) : List Bytes :=
  (cfgLoadFromFileLines loading joCfg).mapIdx fun index line =>
    iVlog (loading.stamps index) line.1 line.2

/-! ### Runs -/

/-- `cfg_set_verbosity`. -/
def cfgSetVerbosity (cfg : CfgRecord) (verbosity : Int) : CfgRecord :=
  { cfg with verbosity := verbosity }

/-- The calls that the log depends on. -/
inductive LogOp
  | log (occasion : Occasion) (lvl : LogLvl) (text : Bytes)
  | putc (occasion : Occasion) (c : UInt8)
  /-- `cfg_set_verbosity`. -/
  | setVerbosity (verbosity : Int)
  /-- `cfg_load_from_file`, on what has been read. -/
  | loadFromFile (loading : Loading) (joCfg : Json)

/-- One call. A loading that uses what is indeterminate has no outcome. -/
def logStep (cfg : CfgRecord) : LogOp → Except Indeterminate (CfgRecord × List LogEvent)
  | .log occasion lvl text => .ok (iCfgLog occasion cfg lvl text).2
  | .putc occasion c => .ok (cfgLogPutc occasion cfg c)
  | .setVerbosity verbosity => .ok (cfgSetVerbosity cfg verbosity, [])
  | .loadFromFile loading joCfg =>
      (cfgLoadFromFile cfg joCfg).map fun after =>
        (after, (cfgLoadFromFileTexts loading joCfg).map (.written .stdLogStream))

/-- **A run of calls.** -/
def logRun : CfgRecord → List LogOp → Except Indeterminate (CfgRecord × List LogEvent)
  | cfg, [] => .ok (cfg, [])
  | cfg, op :: ops => do
      let (next, events) ← logStep cfg op
      let (last, later) ← logRun next ops
      return (last, events ++ later)

end Tchatator
