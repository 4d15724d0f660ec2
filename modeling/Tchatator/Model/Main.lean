/-
**The main program of the server** (`server.c`).

What `getopt_long` returns is given, in order, with `optarg` set for the configuration file. The
environment is given too: the variables, what bcrypt makes of root's password, what is read of a file,
and whether the database is reached. `cfg` is a pointer, `none` where it is null; `memlst_add` returns
the pointer it is given. An argument vector is too short for the verbosity to overflow. A front end is
called in the value of a `CLEAN_RETURN`, which destroys the memory list first: its pointers reach no
configuration and no connection any more.
-/

import Tchatator.Model.CfgFile
import Tchatator.Model.Uuid

namespace Tchatator

/-- What `getopt_long` returns. -/
inductive MainOption
  | help
  | version
  | dumpConfig
  | quiet
  | verbose
  | interactive
  | config (optarg : CString)
  /-- `'?'`. -/
  | unrecognised
deriving DecidableEq

/-- What is printed on the standard output. -/
inductive MainOutput
  | help
  | version
  /-- `cfg_dump`. -/
  | config (cfg : CfgRecord)

/-- The exit statuses of `main`. -/
inductive ExitStatus
  /-- `EX_OK`. -/
  | ok
  /-- `EX_USAGE`. -/
  | usage
  /-- `EX_NODB`. -/
  | noDb
  /-- `EXIT_FAILURE`. -/
  | failure
deriving DecidableEq

/-- How the main program goes on after its options. -/
inductive MainEnd
  | exits (printed : Option MainOutput) (status : ExitStatus)
  /-- `tchatator413_run_interactive`, with the configuration that its pointer reaches, `none` where it
  has been destroyed. -/
  | runInteractive (cfg : Option CfgRecord)
  /-- `tchatator413_run_socket`, likewise. -/
  | runSocket (cfg : Option CfgRecord)
  | indeterminate (use : Indeterminate)
  /-- The configuration is reached through a null pointer. -/
  | nullCfg

/-- What the main program runs in. -/
structure Environment where
  getenv : String → Option CString
  /-- `bcrypt_hashpw`, with a new salt. -/
  hashpw : CString → Option CString
  /-- `json_object_from_file`. -/
  fromFile : CString → Json
  /-- `db_connect` returns a connection, for a host, a port, a database, a user and a password. -/
  connects : CString → CString → CString → CString → CString → Bool

/-- `require_env`. -/
def requireEnv (environment : Environment) (name : String) : Except MainEnd CString :=
  match environment.getenv name with
  | none => .error (.exits none .usage)
  | some value => .ok value

/-- `cfg_defaults`, and the root credentials. -/
def rootCfg (rootApiKey : Uuid4) (rootPasswordHash : CString) : CfgRecord :=
  { cfgDefaults rootApiKey rootPasswordHash with logFile := .stdLogStream }

/-- `main`, up to its arguments. -/
def loadRootCredentials (environment : Environment) : Except MainEnd CfgRecord := do
  let repr ← requireEnv environment "ROOT_API_KEY"
  match uuid4Parse repr.1 with
  | none => .error (.exits none .usage)
  | some rootApiKey =>
      let rootPassword ← requireEnv environment "ROOT_PASSWORD"
      match environment.hashpw rootPassword with
      | none => .error (.exits none .failure)
      | some rootPasswordHash => .ok (rootCfg rootApiKey rootPasswordHash)

/-! ### Arguments -/

/-- The variables of the option loop. -/
structure MainState where
  verbosity : Int
  dumpConfig : Bool
  interactive : Bool
  cfg : Option CfgRecord

/-- `cfg_load_from_file`, through a pointer. -/
def loadFromFile (environment : Environment) (filename : CString) :
    Option CfgRecord → Except MainEnd (Option CfgRecord)
  | none => .error .nullCfg
  | some cfg =>
      match cfgLoadFromFile cfg (environment.fromFile filename) with
      | .error use => .error (.indeterminate use)
      | .ok loaded => .ok (some loaded)

/-- One turn of the loop. -/
def readOption (environment : Environment) (state : MainState) :
    MainOption → Except MainEnd MainState
  | .help => .error (.exits (some .help) .ok)
  | .version => .error (.exits (some .version) .ok)
  | .dumpConfig => .ok { state with dumpConfig := true }
  | .quiet => .ok { state with verbosity := state.verbosity - 1 }
  | .verbose => .ok { state with verbosity := state.verbosity + 1 }
  | .interactive => .ok { state with interactive := true }
  | .config optarg =>
      -- `if (cfg)`: the pointer, not whether a file has been given
      if state.cfg.isSome then .error (.exits none .usage)
      else (loadFromFile environment optarg state.cfg).map ({ state with cfg := · })
  | .unrecognised => .error (.exits (some .help) .usage)

/-- The option loop. -/
def readOptions (environment : Environment) : MainState → List MainOption →
    Except MainEnd MainState
  | state, [] => .ok state
  | state, option :: options =>
      match readOption environment state option with
      | .error done => .error done
      | .ok after => readOptions environment after options

/-! ### The program -/

/-- `main`, after its arguments. -/
def runServer (environment : Environment) (state : MainState) : Except MainEnd MainEnd :=
  match state.cfg with
  | none => .error .nullCfg
  | some cfg => do
      let cfg := { cfg with verbosity := state.verbosity }
      if state.dumpConfig then .error (.exits (some (.config cfg)) .ok)
      else
        let host ← requireEnv environment "DB_HOST"
        let port ← requireEnv environment "DB_PORT"
        let database ← requireEnv environment "DB_NAME"
        let username ← requireEnv environment "DB_USER"
        let password ← requireEnv environment "DB_PASSWORD"
        if environment.connects host port database username password then
          -- `CLEAN_RETURN` has destroyed the configuration and closed the connection
          .ok (if state.interactive then .runInteractive none else .runSocket none)
        else .error (.exits none .noDb)

/-- `main`. -/
def runMain (environment : Environment) (options : List MainOption) : MainEnd :=
  let run : Except MainEnd MainEnd := do
    let cfg ← loadRootCredentials environment
    let state ← readOptions environment ⟨0, false, false, some cfg⟩ options
    runServer environment state
  match run with
  | .error done => done
  | .ok done => done

end Tchatator
