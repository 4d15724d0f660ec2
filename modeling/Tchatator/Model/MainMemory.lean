/-
**The memory of the main program** (`server.c`, `CLEAN_RETURN`).

`main` once more, with the memory list it registers its configuration and its connection in. Both
are read through pointers that `main` keeps: it passes them to the functions it calls. A `return`
goes through `CLEAN_RETURN(mem, value)`, which destroys the list and evaluates the value then;
`require_env` and a failed hash leave by `exit`. The configuration is there: `malloc` does not fail.

A function of this module does what the one of the same name does, which computes the values.
-/

import Tchatator.Library.Resources
import Tchatator.Model.Main
import Tchatator.Model.Memlst

namespace Tchatator.Traced

open Resources

/-- The destructors that `main` registers. -/
inductive MainDtor
  | cfgDestroy
  | dbDestroy
deriving DecidableEq

/-- How `main` is left. -/
inductive MainLeave
  /-- By a `return`, or by what the returned expression does. -/
  | returns (ends : MainEnd)
  /-- By `exit`. -/
  | exits (ends : MainEnd)

def MainLeave.ends : MainLeave → MainEnd
  | .returns ends => ends
  | .exits ends => ends

/-- A part of `main`, which may leave it. -/
abbrev MainTracing := ExceptT MainLeave (Tracked (Memlst Nat MainDtor) Fault)

/-- `memlst_add` of what has just been made: `main` keeps the pointer. -/
def keep (dtor : MainDtor) : MainTracing Unit := do
  let resource ← (acquire : Tracked (Memlst Nat MainDtor) Fault Nat)
  (updateOwner fun mem => (memlstAdd mem dtor (some resource)).map Prod.snd :
    Tracked (Memlst Nat MainDtor) Fault Unit)
  (borrow resource : Tracked (Memlst Nat MainDtor) Fault Unit)

/-- The pointers that `main` keeps are read, or passed to a function that reads them. -/
def readKept : MainTracing Unit := (useBorrowed : Tracked (Memlst Nat MainDtor) Fault Unit)

/-- `memlst_destroy`: the destructors are called in order. -/
def destroyed (log : Log (Memlst Nat MainDtor)) : Log (Memlst Nat MainDtor) :=
  let (called, mem) := memlstDestroy log.owner
  ((called.filterMap MemlstEntry.ptr).foldl Log.released log).ownedBy mem

def destroyMemlst : MainTracing Unit := ExceptT.mk fun log => .ok (.ok (), destroyed log)

/-- `CLEAN_RETURN`, of a constant. -/
def cleanReturn {α : Type} (ends : MainEnd) : MainTracing α := do
  destroyMemlst
  throw (.returns ends)

/-- `CLEAN_RETURN`, of a call to a front end with the configuration and the connection: the value
is evaluated after the list has been destroyed. -/
def cleanReturnCall {α : Type} (ends : MainEnd) : MainTracing α := do
  destroyMemlst
  readKept
  throw (.returns ends)

/-- `require_env`: a missing variable is logged, which reads the configuration. -/
def requireEnv (environment : Environment) (name : String) : MainTracing CString :=
  match environment.getenv name with
  | none => do
      readKept
      throw (.exits (.exits none .usage))
  | some value => return value

/-- `main`, up to its arguments. -/
def loadRootCredentials (environment : Environment) : MainTracing CfgRecord := do
  let repr ← requireEnv environment "ROOT_API_KEY"
  match uuid4Parse repr.1 with
  | none => do
      readKept
      cleanReturn (.exits none .usage)
  | some rootApiKey => do
      let rootPassword ← requireEnv environment "ROOT_PASSWORD"
      readKept
      match environment.hashpw rootPassword with
      | none => throw (.exits (.exits none .failure))
      | some rootPasswordHash => return rootCfg rootApiKey rootPasswordHash

/-- One turn of the loop. -/
def readOption (environment : Environment) (state : MainState) :
    MainOption → MainTracing MainState
  | .help => cleanReturn (.exits (some .help) .ok)
  | .version => cleanReturn (.exits (some .version) .ok)
  | .dumpConfig => return { state with dumpConfig := true }
  | .quiet => return { state with verbosity := state.verbosity - 1 }
  | .verbose => return { state with verbosity := state.verbosity + 1 }
  | .interactive => return { state with interactive := true }
  | .config optarg => do
      readKept
      if state.cfg.isSome then cleanReturn (.exits none .usage)
      else
        match loadFromFile environment optarg state.cfg with
        | .error ends => throw (.exits ends)
        | .ok loaded => return { state with cfg := loaded }
  | .unrecognised => cleanReturn (.exits (some .help) .usage)

/-- The option loop. -/
def readOptions (environment : Environment) : MainState → List MainOption → MainTracing MainState
  | state, [] => return state
  | state, option :: options => do
      let after ← readOption environment state option
      readOptions environment after options

/-- `main`, after its arguments. -/
def runServer (environment : Environment) (state : MainState) : MainTracing MainEnd :=
  match state.cfg with
  | none => throw (.exits .nullCfg)
  | some cfg => do
      let cfg := { cfg with verbosity := state.verbosity }
      readKept
      if state.dumpConfig then do
        readKept
        cleanReturn (.exits (some (.config cfg)) .ok)
      else
        let host ← requireEnv environment "DB_HOST"
        let port ← requireEnv environment "DB_PORT"
        let database ← requireEnv environment "DB_NAME"
        let username ← requireEnv environment "DB_USER"
        let password ← requireEnv environment "DB_PASSWORD"
        readKept
        if environment.connects host port database username password then do
          keep .dbDestroy
          cleanReturnCall (if state.interactive then .runInteractive none else .runSocket none)
        else cleanReturn (.exits none .noDb)

/-- `main`, and how it is left. -/
def runMain (environment : Environment) (options : List MainOption) :
    MainTracing MainEnd := do
  keep .cfgDestroy
  let cfg ← loadRootCredentials environment
  let state ← readOptions environment ⟨0, false, false, some cfg⟩ options
  runServer environment state

end Tchatator.Traced
