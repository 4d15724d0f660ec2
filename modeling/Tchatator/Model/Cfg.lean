/-
**The libraries and the configuration** (`cfg.c`).

* `Bcrypt`, `JsonC` — the code that is not in the repository, with what the program relies on:
  `bcrypt_checkpw` returns `0` on a match, a positive value on a mismatch and `-1` when its second
  argument is not a bcrypt hash; the printers of json-c return C strings.
* `Host` — these, the four bytes that stand where libpq keeps the value of a null column, and where
  the string literals lie.
* `Cfg` — the configuration record, and the check of the root connection string.
-/

import Tchatator.Model.Json

namespace Tchatator

/-! ### Libraries -/

/-- The part of bcrypt the server calls. -/
structure Bcrypt where
  /-- Whether a text is a bcrypt hash. -/
  isHash : CString → Bool
  /-- `bcrypt_checkpw`, on a password that is not null. -/
  checkpw : CString → CString → Int
  checkpw_hash : ∀ password hash, isHash hash = true → 0 ≤ checkpw password hash
  checkpw_not_hash : ∀ password hash, isHash hash = false → checkpw password hash = -1
  empty_not_hash : isHash (cstring []) = false

/-- The password matches the hash. -/
def Bcrypt.Matches (bcrypt : Bcrypt) (password hash : CString) : Prop :=
  bcrypt.checkpw password hash = 0

instance (bcrypt : Bcrypt) (password hash : CString) :
    Decidable (bcrypt.Matches password hash) :=
  inferInstanceAs (Decidable (_ = _))

/-- The printers of json-c. -/
structure JsonC where
  /-- `json_object_to_json_string`. -/
  toJsonString : Json → CString
  /-- `min_json`: the same with `JSON_C_TO_STRING_PLAIN`. -/
  minJson : Json → CString

/-- What the server runs on. -/
structure Host where
  bcrypt : Bcrypt
  json : JsonC
  /-- What a 32-bit read of a null column's empty value yields. -/
  nullField : Nat
  /-- The address of a string literal. -/
  literalAddress : Bytes → BitVec 64

/-- `bcrypt_checkpw(password, hash)`, as it is called: the password may be a null pointer. -/
def bcryptCheckpw (bcrypt : Bcrypt) (password : Option CString) (hash : CString) :
    Except Fault Int :=
  match password with
  | none => .error .nullPassword
  | some password => .ok (bcrypt.checkpw password hash)

/-- `switch (bcrypt_checkpw(password, hash))`, the same in both callers. -/
def passwordAccepted (bcrypt : Bcrypt) (password : Option CString) (hash : CString) :
    Except Fault Bool :=
  match bcryptCheckpw bcrypt password hash with
  | .error fault => .error fault
  | .ok result => if result = -1 then .error .errnoExit else .ok (decide (result = 0))

/-! ### Configuration -/

/-- `struct cfg`. -/
structure Cfg where
  maxMsgLength : Nat
  pageInbox : Int
  pageOutbox : Int
  rateLimitM : Int
  rateLimitH : Int
  blockFor : Int
  backlog : Int
  port : Nat
  logFileName : Option CString
  verbosity : Int
  rootApiKey : Uuid4
  rootPasswordHash : CString

/-- `cfg_defaults`, and the root credentials that `main` loads right after it. -/
def cfgDefaults (rootApiKey : Uuid4) (rootPasswordHash : CString) : Cfg :=
  { logFileName := none
    verbosity := 0
    backlog := 1
    blockFor := 86400
    maxMsgLength := 1000
    pageInbox := 20
    pageOutbox := 20
    port := 4113
    rateLimitH := 90
    rateLimitM := 12
    rootApiKey := rootApiKey
    rootPasswordHash := rootPasswordHash }

/-- `cfg_load_root_credentials` ran: it stores what `bcrypt_hashpw` returned, or exits. -/
def Cfg.Loaded (bcrypt : Bcrypt) (cfg : Cfg) : Prop :=
  bcrypt.isHash cfg.rootPasswordHash = true

instance (bcrypt : Bcrypt) (cfg : Cfg) : Decidable (cfg.Loaded bcrypt) :=
  inferInstanceAs (Decidable (_ = _))

/-- `cfg_verify_root_constr`. -/
def cfgVerifyRootConstr (bcrypt : Bcrypt) (cfg : Cfg) (constr : Constr) : Except Fault Bool :=
  if uuid4Eq cfg.rootApiKey constr.apiKey then
    passwordAccepted bcrypt constr.password cfg.rootPasswordHash
  else .ok false

/-! ### What the password check does -/

section Password

variable (bcrypt : Bcrypt)

@[simp]
theorem passwordAccepted_none (hash : CString) :
    passwordAccepted bcrypt none hash = .error .nullPassword := rfl

/-- **Against a hash, a password is accepted exactly when it matches.** -/
theorem passwordAccepted_hash (password : CString) {hash : CString}
    (isHash : bcrypt.isHash hash = true) :
    passwordAccepted bcrypt (some password) hash =
      .ok (decide (bcrypt.Matches password hash)) := by
  have nonneg := bcrypt.checkpw_hash password hash isHash
  have notMinus : bcrypt.checkpw password hash ≠ -1 := by omega
  simp only [passwordAccepted, bcryptCheckpw, if_neg notMinus]
  rfl

/-- What a password matches is a hash. -/
theorem isHash_of_matches {password hash : CString} (right : bcrypt.Matches password hash) :
    bcrypt.isHash hash = true := by
  by_contra notHash
  have minus := bcrypt.checkpw_not_hash password hash (Bool.eq_false_iff.mpr notHash)
  cases minus.symm.trans right

/-- **Against anything else, the process exits.** -/
theorem passwordAccepted_not_hash (password : CString) {hash : CString}
    (notHash : bcrypt.isHash hash = false) :
    passwordAccepted bcrypt (some password) hash = .error .errnoExit := by
  simp only [passwordAccepted, bcryptCheckpw, bcrypt.checkpw_not_hash password hash notHash,
    if_true]

end Password

end Tchatator
