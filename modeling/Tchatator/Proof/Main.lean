/-
**Which argument vectors start the server as documented** (`main`, `HELP`).

* `filesGiven` — the configuration files that come before the first `--help` or `--version`;
* `DocumentedRun` — a second file is refused; otherwise the help or the version is shown, or the
  server starts (or dumps its configuration) with the defaults overridden by the file, and the
  verbosity of the options; and nothing that has been released is read;
* `readOptions_eq` — the loop: it stops at the first option that shows something, and at the first
  file, which is refused since `cfg` is not null;
* `endsWith_iff` — the program ends without a front end: those are called on what has been released;
* `not_documented_of_oneFile`, `documented_of_noFile_iff`, `documented_of_files` — by the number of
  files;
* **`documentedRun_iff`** — so the program runs as documented when several files are given, and when
  none is and something is shown or dumped.
-/

import Tchatator.Model.TestData
import Tchatator.Proof.MainMemory

namespace Tchatator

/-! ### Documentation -/

/-- What an option shows, before the program exits. -/
def MainOption.shown : MainOption → Option MainOutput
  | .help => some .help
  | .version => some .version
  | _ => none

/-- The configuration file of an option. -/
def MainOption.file : MainOption → Option CString
  | .config optarg => some optarg
  | _ => none

/-- The configuration files that are given before something is shown. -/
def filesGiven (options : List MainOption) : List CString :=
  (options.takeWhile fun option => option.shown.isNone).filterMap MainOption.file

/-- The number of -v minus the number of -q. -/
def verbosityOf (options : List MainOption) : Int :=
  (options.count .verbose : Int) - options.count .quiet

/-- **The defaults, overridden by the file**, if one is given. -/
def Overridden (environment : Environment) (defaults : CfgRecord) (files : List CString)
    (cfg : CfgRecord) : Prop :=
  match files with
  | [] => cfg = defaults
  | file :: _ => cfgLoadFromFile defaults (environment.fromFile file) = .ok cfg

/-- How the server goes on with a configuration, which a front end reaches. -/
def startedWith (options : List MainOption) (cfg : CfgRecord) : MainEnd :=
  let cfg := { cfg with verbosity := verbosityOf options }
  if .dumpConfig ∈ options then .exits (some (.config cfg)) .ok
  else if .interactive ∈ options then .runInteractive (some cfg)
  else .runSocket (some cfg)

/-- **The program ends** in a way, having read nothing that it had released. -/
def EndsWith (environment : Environment) (options : List MainOption) (ends : MainEnd) : Prop :=
  ∃ leave after, leave.ends = ends ∧
    (Traced.runMain environment options).run (.start memlstInit) = .ok (.error leave, after) ∧
    Resources.InTime after.events

/-- **The program runs as documented.** -/
structure DocumentedRun (environment : Environment) (defaults : CfgRecord)
    (options : List MainOption) : Prop where
  refused : 2 ≤ (filesGiven options).length → EndsWith environment options (.exits none .usage)
  shown : (filesGiven options).length ≤ 1 → ∀ output ∈ options.findSome? MainOption.shown,
    EndsWith environment options (.exits (some output) .ok)
  started : (filesGiven options).length ≤ 1 → options.findSome? MainOption.shown = none →
    ∃ cfg, Overridden environment defaults (filesGiven options) cfg ∧
      EndsWith environment options (startedWith options cfg)

/-- The required variables are set, root's key and password can be used, and the database is
reached. -/
structure Environment.Ready (environment : Environment) (rootApiKey : Uuid4)
    (rootPasswordHash : CString) : Prop where
  apiKey : ∃ repr, environment.getenv "ROOT_API_KEY" = some repr ∧
    uuid4Parse repr.1 = some rootApiKey
  password : ∃ rootPassword, environment.getenv "ROOT_PASSWORD" = some rootPassword ∧
    environment.hashpw rootPassword = some rootPasswordHash
  database : ∃ host port name user password, environment.getenv "DB_HOST" = some host ∧
    environment.getenv "DB_PORT" = some port ∧ environment.getenv "DB_NAME" = some name ∧
    environment.getenv "DB_USER" = some user ∧
    environment.getenv "DB_PASSWORD" = some password ∧
    environment.connects host port name user password = true

/-! ### The loop -/

/-- The variables of the loop, after some options that only set them. -/
def MainState.after (state : MainState) (options : List MainOption) : MainState :=
  { state with
    verbosity := state.verbosity + verbosityOf options
    dumpConfig := state.dumpConfig || decide (.dumpConfig ∈ options)
    interactive := state.interactive || decide (.interactive ∈ options) }

section

variable {environment : Environment} {state : MainState} {option : MainOption}
  {options : List MainOption} {cfg : CfgRecord}

/-- An option that only sets a variable. -/
structure MainOption.Plain (option : MainOption) : Prop where
  showsNothing : option.shown = none
  noFile : option.file = none
  recognised : option ≠ .unrecognised

theorem MainState.after_cons (state : MainState) (option : MainOption) (options : List MainOption) :
    (state.after [option]).after options = state.after (option :: options) := by
  simp only [MainState.after, verbosityOf, List.count_cons, List.count_nil, List.mem_cons,
    List.not_mem_nil, or_false, MainState.mk.injEq, Bool.decide_or, Bool.or_assoc, and_true]
  omega

/-- **One turn of the loop.** -/
theorem readOption_plain (plain : option.Plain) :
    readOption environment state option = .ok (state.after [option]) := by
  obtain ⟨showsNothing, noFile, recognised⟩ := plain
  cases option with
  | help => cases showsNothing
  | version => cases showsNothing
  | config => cases noFile
  | unrecognised => exact absurd rfl recognised
  | dumpConfig => simp [readOption, MainState.after, verbosityOf]
  | quiet => simp [readOption, MainState.after, verbosityOf, Int.sub_eq_add_neg]
  | verbose => simp [readOption, MainState.after, verbosityOf]
  | interactive => simp [readOption, MainState.after, verbosityOf]

theorem filesGiven_plain (plain : option.Plain) :
    filesGiven (option :: options) = filesGiven options := by
  have passes : option.shown.isNone = true := by rw [plain.showsNothing, Option.isNone_none]
  rw [filesGiven, List.takeWhile_cons, if_pos (by exact passes),
    List.filterMap_cons_none plain.noFile]
  rfl

theorem findShown_plain (plain : option.Plain) :
    (option :: options).findSome? MainOption.shown = options.findSome? MainOption.shown :=
  List.findSome?_cons_of_isNone (by rw [plain.showsNothing, Option.isNone_none])

/-- **Options that only set variables**, and those that show something. -/
theorem plain_or_not (recognised : option ≠ .unrecognised) :
    option.Plain ∨ (∃ output, option.shown = some output ∧
      ∀ state, readOption environment state option = .error (.exits (some output) .ok)) ∨
      ∃ file, option = .config file := by
  cases option with
  | help => exact Or.inr (Or.inl ⟨.help, rfl, fun _ => rfl⟩)
  | version => exact Or.inr (Or.inl ⟨.version, rfl, fun _ => rfl⟩)
  | config file => exact Or.inr (Or.inr ⟨file, rfl⟩)
  | unrecognised => exact absurd rfl recognised
  | dumpConfig => exact Or.inl ⟨rfl, rfl, recognised⟩
  | quiet => exact Or.inl ⟨rfl, rfl, recognised⟩
  | verbose => exact Or.inl ⟨rfl, rfl, recognised⟩
  | interactive => exact Or.inl ⟨rfl, rfl, recognised⟩

theorem filesGiven_shown {output : MainOutput} (shows : option.shown = some output) :
    filesGiven (option :: options) = [] := by
  have stops : ¬ option.shown.isNone = true := by
    rw [shows]
    exact Bool.false_ne_true
  rw [filesGiven, List.takeWhile_cons, if_neg (by exact stops)]
  rfl

theorem filesGiven_config (file : CString) :
    filesGiven (.config file :: options) = file :: filesGiven options := rfl

/-- **What the loop does**: it stops at the first file, since `cfg` is not null, or at the first
option that shows something. -/
theorem readOptions_eq (hasCfg : state.cfg = some cfg) (accepted : .unrecognised ∉ options) :
    readOptions environment state options =
      if filesGiven options ≠ [] then .error (.exits none .usage)
      else (options.findSome? MainOption.shown).elim (.ok (state.after options)) fun output =>
        .error (.exits (some output) .ok) := by
  induction options generalizing state with
  | nil => simp [readOptions, filesGiven, MainState.after, verbosityOf]
  | cons option options ih =>
    have recognised : option ≠ .unrecognised := fun isUnrecognised =>
      accepted (isUnrecognised ▸ List.mem_cons_self)
    have later : MainOption.unrecognised ∉ options := fun isLater =>
      accepted (List.mem_cons_of_mem _ isLater)
    rcases plain_or_not recognised with plain | ⟨output, shows, exits⟩ | ⟨file, rfl⟩
    · rw [readOptions, readOption_plain plain, filesGiven_plain plain, findShown_plain plain,
        ← state.after_cons option options]
      exact ih hasCfg later
    · have first : (option :: options).findSome? MainOption.shown = some output :=
        (List.findSome?_cons_of_isSome (Option.isSome_of_eq_some shows)).trans shows
      rw [readOptions, exits, filesGiven_shown shows, first]
      rfl
    · have isSome : state.cfg.isSome = true := by rw [hasCfg, Option.isSome_some]
      rw [readOptions, readOption, if_pos isSome, filesGiven_config,
        if_pos (List.cons_ne_nil _ _)]

end

/-! ### The program -/

section

variable {environment : Environment} {rootApiKey : Uuid4} {rootPasswordHash : CString}
  {options : List MainOption}

theorem loadRootCredentials_ready (ready : environment.Ready rootApiKey rootPasswordHash) :
    loadRootCredentials environment = .ok (rootCfg rootApiKey rootPasswordHash) := by
  obtain ⟨repr, isKey, parses⟩ := ready.apiKey
  obtain ⟨rootPassword, isPassword, hashes⟩ := ready.password
  simp only [loadRootCredentials, requireEnv, isKey, parses, isPassword, hashes, bind, Except.bind]

/-- How the server goes on, when a front end has nothing left. -/
def goesOnWith (options : List MainOption) (cfg : CfgRecord) : MainEnd :=
  if .dumpConfig ∈ options then startedWith options cfg
  else if .interactive ∈ options then .runInteractive none
  else .runSocket none

theorem runServer_ready (ready : environment.Ready rootApiKey rootPasswordHash) (cfg : CfgRecord) :
    runServer environment (MainState.after ⟨0, false, false, some cfg⟩ options) =
      if .dumpConfig ∈ options then .error (goesOnWith options cfg)
      else .ok (goesOnWith options cfg) := by
  obtain ⟨host, port, name, user, password, isHost, isPort, isName, isUser, isPassword, connects⟩ :=
    ready.database
  simp only [runServer, MainState.after, Int.zero_add, Bool.false_or, decide_eq_true_eq, requireEnv,
    isHost, isPort, isName, isUser, isPassword, connects, if_true, bind, Except.bind]
  by_cases dumps : MainOption.dumpConfig ∈ options
  · rw [if_pos dumps, if_pos dumps, goesOnWith, if_pos dumps, startedWith, if_pos dumps]
  · rw [if_neg dumps, if_neg dumps, goesOnWith, if_neg dumps]

/-- **What the program does**, in an environment that is ready. -/
theorem runMain_ready (ready : environment.Ready rootApiKey rootPasswordHash)
    (accepted : .unrecognised ∉ options) :
    runMain environment options =
      if filesGiven options ≠ [] then .exits none .usage
      else (options.findSome? MainOption.shown).elim
        (goesOnWith options (rootCfg rootApiKey rootPasswordHash)) fun output =>
        .exits (some output) .ok := by
  have hasCfg : (MainState.mk 0 false false (some (rootCfg rootApiKey rootPasswordHash))).cfg =
      some (rootCfg rootApiKey rootPasswordHash) := rfl
  simp only [runMain, loadRootCredentials_ready ready, bind, Except.bind,
    readOptions_eq hasCfg accepted]
  by_cases noFile : filesGiven options = []
  · rw [if_neg (not_not.mpr noFile), if_neg (not_not.mpr noFile)]
    cases options.findSome? MainOption.shown with
    | some output => rfl
    | none =>
      simp only [Option.elim_none, runServer_ready ready]
      by_cases dumps : MainOption.dumpConfig ∈ options
      · rw [if_pos dumps]
      · rw [if_neg dumps]
  · rw [if_pos noFile, if_pos noFile]

theorem startedWith_ne_usage (cfg : CfgRecord) :
    startedWith options cfg ≠ .exits none .usage := by
  rw [startedWith]
  split_ifs <;> exact nofun

end

/-! ### Files -/

section

variable {environment : Environment} {rootApiKey : Uuid4} {rootPasswordHash : CString}
  {options : List MainOption} {ends : MainEnd}

/-- **The program ends in one way, without a front end.** -/
theorem endsWith_iff :
    EndsWith environment options ends ↔
      runMain environment options = ends ∧ ¬ ends.CallsFrontEnd := by
  obtain ⟨leave, after, same, ran, left⟩ := Traced.runMain_refines environment options
  have sound := left.released.sound
  rw [same] at sound
  constructor
  · rintro ⟨other, otherAfter, rfl, otherRan, inTime⟩
    cases ran.symm.trans otherRan
    rw [same]
    exact ⟨rfl, sound.mp inTime⟩
  · rintro ⟨rfl, leaves⟩
    exact ⟨leave, after, same, ran, sound.mpr leaves⟩

/-- A start calls a front end, unless the configuration is dumped. -/
theorem startedWith_calls_iff (cfg : CfgRecord) :
    ¬ (startedWith options cfg).CallsFrontEnd ↔ .dumpConfig ∈ options := by
  rw [startedWith]
  split
  · exact iff_of_true id ‹_›
  · refine iff_of_false (not_not.mpr ?_) ‹_›
    split <;> exact trivial

/-- One file is refused as if it were the second. -/
theorem not_documented_of_oneFile (ready : environment.Ready rootApiKey rootPasswordHash)
    (accepted : .unrecognised ∉ options) (isOne : (filesGiven options).length = 1) :
    ¬ DocumentedRun environment (rootCfg rootApiKey rootPasswordHash) options := by
  intro documented
  have hasFile : filesGiven options ≠ [] := by
    rw [← List.length_pos_iff, isOne]
    exact Nat.one_pos
  have ran := runMain_ready ready accepted
  rw [if_pos hasFile] at ran
  cases shows : options.findSome? MainOption.shown with
  | some output =>
    have shown := (endsWith_iff.mp (documented.shown isOne.le output shows)).1
    rw [ran] at shown
    cases shown
  | none =>
    obtain ⟨cfg, _, started⟩ := documented.started isOne.le shows
    have isUsage := (endsWith_iff.mp started).1
    exact startedWith_ne_usage cfg (isUsage.symm.trans ran)

/-- Without a file, the program is to show something, or to start. -/
theorem documented_of_noFile_iff (ready : environment.Ready rootApiKey rootPasswordHash)
    (accepted : .unrecognised ∉ options) (noFile : filesGiven options = []) :
    DocumentedRun environment (rootCfg rootApiKey rootPasswordHash) options ↔
      options.findSome? MainOption.shown ≠ none ∨ .dumpConfig ∈ options := by
  have ran := runMain_ready ready accepted
  rw [if_neg (not_not.mpr noFile)] at ran
  have notTwo : ¬ 2 ≤ (filesGiven options).length := by
    rw [noFile]
    decide
  have atMostOne : (filesGiven options).length ≤ 1 := by omega
  cases shows : options.findSome? MainOption.shown with
  | some output =>
    rw [shows] at ran
    refine iff_of_true ⟨fun two => absurd two notTwo, fun _ other isShown => ?_, fun _ none => ?_⟩
      (Or.inl (Option.some_ne_none output))
    · cases shows.symm.trans isShown
      exact endsWith_iff.mpr ⟨ran, id⟩
    · cases shows.symm.trans none
  | none =>
    rw [shows] at ran
    rw [or_iff_right (not_not.mpr rfl)]
    constructor
    · intro documented
      obtain ⟨cfg, _, started⟩ := documented.started atMostOne shows
      exact (startedWith_calls_iff cfg).mp (endsWith_iff.mp started).2
    · intro dumps
      refine ⟨fun two => absurd two notTwo, fun _ output isShown => ?_, fun _ _ =>
        ⟨rootCfg rootApiKey rootPasswordHash, ?_, ?_⟩⟩
      · cases shows.symm.trans isShown
      · rw [noFile]
        exact rfl
      · refine endsWith_iff.mpr ⟨ran.trans ?_, (startedWith_calls_iff _).mpr dumps⟩
        exact if_pos dumps

theorem documented_of_files (ready : environment.Ready rootApiKey rootPasswordHash)
    (accepted : .unrecognised ∉ options) (several : 2 ≤ (filesGiven options).length) :
    DocumentedRun environment (rootCfg rootApiKey rootPasswordHash) options := by
  have hasFile : filesGiven options ≠ [] := List.length_pos_iff.mp (Nat.zero_lt_of_lt several)
  have ran := runMain_ready ready accepted
  rw [if_pos hasFile] at ran
  exact ⟨fun _ => endsWith_iff.mpr ⟨ran, id⟩, fun one => absurd one (Nat.not_le_of_lt several),
    fun one => absurd one (Nat.not_le_of_lt several)⟩

end

/-- **The program runs as documented exactly when several files are given, or none and something is
shown or dumped.** -/
theorem documentedRun_iff (environment : Environment) (rootApiKey : Uuid4)
    (rootPasswordHash : CString) (ready : environment.Ready rootApiKey rootPasswordHash)
    (options : List MainOption) (accepted : .unrecognised ∉ options) :
    DocumentedRun environment (rootCfg rootApiKey rootPasswordHash) options ↔
      2 ≤ (filesGiven options).length ∨
        (filesGiven options = [] ∧
          (options.findSome? MainOption.shown ≠ none ∨ .dumpConfig ∈ options)) := by
  by_cases noFile : filesGiven options = []
  · have notTwo : ¬ 2 ≤ (filesGiven options).length := by
      rw [noFile]
      decide
    rw [documented_of_noFile_iff ready accepted noFile, or_iff_right notTwo, and_iff_right noFile]
  · rw [or_iff_left fun none => noFile none.1]
    have atLeastOne := List.length_pos_iff.mpr noFile
    constructor
    · intro documented
      by_contra notTwo
      exact not_documented_of_oneFile ready accepted (by omega) documented
    · exact fun several => documented_of_files ready accepted several

/-- An environment with root's key and password, and a file that sets the backlog. -/
def testEnvironment : Environment :=
  { getenv := fun name =>
      if name = "ROOT_API_KEY" then some (clit "63291606-ac93-41f7-b248-f0cd25adb61f")
      else if name = "ROOT_PASSWORD" then some (clit "pro1_mdp")
      else some (clit "sae413")
    hashpw := fun password => if password = clit "pro1_mdp" then some pro1Hash else none
    fromFile := fun _ => .object [(clit "backlog", .int 5)]
    connects := fun _ _ _ _ _ => true }

/-- Root's key in this environment. -/
def testRootApiKey : Uuid4 := uuidOf "63291606-ac93-41f7-b248-f0cd25adb61f"

theorem testEnvironment_ready : testEnvironment.Ready testRootApiKey pro1Hash :=
  ⟨⟨_, rfl, by decide⟩, ⟨_, rfl, by decide⟩, ⟨_, _, _, _, _, rfl, rfl, rfl, rfl, rfl, rfl⟩⟩

/-- Without a file, the program dumps the defaults with the verbosity of its options. -/
theorem testEnvironment_documented :
    DocumentedRun testEnvironment (rootCfg testRootApiKey pro1Hash)
      [.verbose, .dumpConfig, .verbose, .quiet] :=
  (documentedRun_iff testEnvironment testRootApiKey pro1Hash testEnvironment_ready
    [.verbose, .dumpConfig, .verbose, .quiet] (by decide)).mpr (by decide)

/-- With a file, it does not start; without an option, it starts on a configuration that has been
destroyed. -/
theorem starts_not_documented :
    ¬ DocumentedRun testEnvironment (rootCfg testRootApiKey pro1Hash)
      [.config (clit "config.json")] ∧
    ¬ DocumentedRun testEnvironment (rootCfg testRootApiKey pro1Hash) [] := by
  refine ⟨not_documented_of_oneFile testEnvironment_ready (by decide) rfl, fun documented => ?_⟩
  have starts := (documented_of_noFile_iff testEnvironment_ready (by decide) rfl).mp documented
  rcases starts with shows | dumps
  · exact shows rfl
  · cases dumps

end Tchatator
