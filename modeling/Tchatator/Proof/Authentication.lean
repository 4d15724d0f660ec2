/-
**Who a connection string is accepted for** (`db_verify_user_constr`).

* `dbVerifyUserConstr_of_given` — the root key with a password, or any other key: the function is
  root's check, then the row found by the key;
* `dbVerifyUserConstr_ok` — what an accepted connection string says: it is root's, or a row of the
  view `"user"` has its key and a valid role;
* **`verifies_iff`** — the documented rules, user by user, hold for a call exactly when three things
  do: the root key comes with a password, a password is only ever compared with a bcrypt hash, and
  a call without a password meets a user who has one.

The third condition is there because `PQgetvalue` never returns a null pointer: a null
`password_hash` reaches `check_password` as an empty string, so its branch for two null pointers is
dead. The first is there because root's check hands the password to bcrypt without looking at it.
-/

import Tchatator.Model.TestData

namespace Tchatator

open Keyed

/-! ### The documented rules -/

/-- The API keys are pairwise different, root's included. -/
def DistinctKeys (cfg : Cfg) (db : Db) : Prop :=
  Unique UserRow.apiKey db.1.users ∧ ∀ user ∈ db.1.users, user.apiKey ≠ cfg.rootApiKey

instance (cfg : Cfg) (db : Db) : Decidable (DistinctKeys cfg db) :=
  inferInstanceAs (Decidable (_ ∧ ∀ user ∈ db.1.users, user.apiKey ≠ cfg.rootApiKey))

/-- The password matches the hash, or both are missing. -/
def PasswordGiven (bcrypt : Bcrypt) : Option CString → Option CString → Prop
  | some hash, some password => bcrypt.Matches password hash
  | none, none => True
  | none, some _ => False
  | some _, none => False

instance (bcrypt : Bcrypt) : (hash password : Option CString) →
    Decidable (PasswordGiven bcrypt hash password)
  | some hash, some password => inferInstanceAs (Decidable (bcrypt.Matches password hash))
  | none, none => .isTrue trivial
  | none, some _ => .isFalse id
  | some _, none => .isFalse id

/-- A password that is accepted matches a hash. -/
theorem PasswordGiven.matches {bcrypt : Bcrypt} {hash : Option CString} {password : CString}
    (given : PasswordGiven bcrypt hash (some password)) :
    ∃ stored, hash = some stored ∧ bcrypt.Matches password stored := by
  cases hash with
  | none => exact given.elim
  | some stored => exact ⟨stored, rfl, given⟩

/-- The key is the user's, and so is the password, or both the password and the hash are missing. -/
def Authenticates (bcrypt : Bcrypt) (user : UserRow) (constr : Constr) : Prop :=
  constr.apiKey = user.apiKey ∧ PasswordGiven bcrypt user.passwordHash constr.password

instance (bcrypt : Bcrypt) (user : UserRow) (constr : Constr) :
    Decidable (Authenticates bcrypt user constr) :=
  inferInstanceAs (Decidable (_ ∧ _))

/-- The root password was given and matches. -/
def RootAuthenticates (bcrypt : Bcrypt) (cfg : Cfg) (constr : Constr) : Prop :=
  ∃ password ∈ constr.password, bcrypt.Matches password cfg.rootPasswordHash

instance (bcrypt : Bcrypt) (cfg : Cfg) (constr : Constr) :
    Decidable (RootAuthenticates bcrypt cfg constr) :=
  inferInstanceAs (Decidable (∃ password ∈ constr.password, _))

/-- The user is a member or a professional, with the role the view `"user"` gives. -/
def IsClientOrPro (db : Db) (user : UserRow) (role : Nat) : Prop :=
  (db.1.userViewRow user).role = some role ∧ (role = roleMember ∨ role = rolePro)

instance (db : Db) (user : UserRow) (role : Nat) : Decidable (IsClientOrPro db user role) :=
  inferInstanceAs (Decidable (_ ∧ (_ ∨ _)))

/-- **The documented behaviour of one call.** It returns; with distinct keys and the lookup
executed, it succeeds as a member or professional exactly when their credentials are given; the
root key succeeds as root exactly when the root password is. -/
structure VerifiesAsDocumented (host : Host) (cfg : Cfg) (moment : Moment) (db : Db)
    (constr : Constr) : Prop where
  returns : ∀ outUser, ∃ status user,
    dbVerifyUserConstr host cfg moment db outUser constr = .ok (status, user)
  users : DistinctKeys cfg db → moment.up .verifyUserConstr = true →
    ∀ user ∈ db.1.users, ∀ role, IsClientOrPro db user role → ∀ outUser,
      (dbVerifyUserConstr host cfg moment db outUser constr = .ok (.ok, ⟨role, user.userId⟩) ↔
        Authenticates host.bcrypt user constr)
  root : DistinctKeys cfg db → constr.apiKey = cfg.rootApiKey → ∀ outUser,
    (dbVerifyUserConstr host cfg moment db outUser constr = .ok (.ok, ⟨roleAdmin, 0⟩) ↔
      RootAuthenticates host.bcrypt cfg constr)

/-! ### Root's check -/

section

variable {host : Host} {cfg : Cfg} {moment : Moment} {db : Db} {outUser : UserIdentity}
  {constr : Constr}

theorem cfgVerifyRootConstr_other (other : constr.apiKey ≠ cfg.rootApiKey) :
    cfgVerifyRootConstr host.bcrypt cfg constr = .ok false := by
  have different : ¬ uuid4Eq cfg.rootApiKey constr.apiKey = true := by
    rw [uuid4Eq_iff]
    exact fun same => other same.symm
  rw [cfgVerifyRootConstr, if_neg different]

theorem cfgVerifyRootConstr_root (same : constr.apiKey = cfg.rootApiKey) :
    cfgVerifyRootConstr host.bcrypt cfg constr =
      passwordAccepted host.bcrypt constr.password cfg.rootPasswordHash := by
  rw [cfgVerifyRootConstr, if_pos ((uuid4Eq_iff _ _).mpr same.symm)]

/-- The root key without a password hands bcrypt a null pointer. -/
theorem dbVerifyUserConstr_null (same : constr.apiKey = cfg.rootApiKey)
    (missing : constr.password = none) :
    dbVerifyUserConstr host cfg moment db outUser constr = .error .nullPassword := by
  rw [dbVerifyUserConstr, cfgVerifyRootConstr_root same, missing, passwordAccepted_none]

/-- Root's key and password. -/
def RootAccepted (bcrypt : Bcrypt) (cfg : Cfg) (constr : Constr) : Prop :=
  constr.apiKey = cfg.rootApiKey ∧ RootAuthenticates bcrypt cfg constr

instance (bcrypt : Bcrypt) (cfg : Cfg) (constr : Constr) :
    Decidable (RootAccepted bcrypt cfg constr) :=
  inferInstanceAs (Decidable (_ ∧ _))

/-- The lookup by key, after root's check has failed. -/
def lookupUser (host : Host) (moment : Moment) (db : Db) (outUser : UserIdentity)
    (constr : Constr) : Except Fault (Errstatus × UserIdentity) :=
  if moment.up .verifyUserConstr then
    match selectByApiKey db constr.apiKey with
    | [] => .ok (.error, outUser)
    | row :: _ => dbVerifyRow host outUser constr row
  else .ok (.handled, outUser)

theorem dbVerifyUserConstr_of_root (loaded : cfg.Loaded host.bcrypt)
    (accepted : RootAccepted host.bcrypt cfg constr) :
    dbVerifyUserConstr host cfg moment db outUser constr = .ok (.ok, ⟨roleAdmin, 0⟩) := by
  obtain ⟨same, password, given, right⟩ := accepted
  have check : cfgVerifyRootConstr host.bcrypt cfg constr = .ok true := by
    rw [cfgVerifyRootConstr_root same, Option.mem_def.mp given,
      passwordAccepted_hash _ _ loaded, decide_eq_true right]
  rw [dbVerifyUserConstr, check]

/-- **Beside root, the call is the lookup**, when the root key comes with a password. -/
theorem dbVerifyUserConstr_of_given (loaded : cfg.Loaded host.bcrypt)
    (given : constr.apiKey = cfg.rootApiKey → constr.password ≠ none)
    (notRoot : ¬ RootAccepted host.bcrypt cfg constr) :
    dbVerifyUserConstr host cfg moment db outUser constr =
      lookupUser host moment db outUser constr := by
  have check : cfgVerifyRootConstr host.bcrypt cfg constr = .ok false := by
    by_cases same : constr.apiKey = cfg.rootApiKey
    · obtain ⟨password, isGiven⟩ := Option.ne_none_iff_exists'.mp (given same)
      have wrong : ¬ host.bcrypt.Matches password cfg.rootPasswordHash := fun right =>
        notRoot ⟨same, password, isGiven, right⟩
      rw [cfgVerifyRootConstr_root same, isGiven, passwordAccepted_hash _ _ loaded,
        decide_eq_false wrong]
    · exact cfgVerifyRootConstr_other same
  rw [dbVerifyUserConstr, check]
  rfl

/-! ### The row found by the key -/

variable {row : UserViewRow}

theorem dbVerifyRow_invalid (invalid : validateDbRole (pqRecvRole host row.role) = false) :
    dbVerifyRow host outUser constr row =
      .ok (.handled, { outUser with role := pqRecvRole host row.role }) := by
  simp only [dbVerifyRow, invalid, Bool.false_eq_true, if_false]

/-- Without a password, nobody is accepted. -/
theorem dbVerifyRow_missing (valid : validateDbRole (pqRecvRole host row.role) = true)
    (missing : constr.password = none) :
    dbVerifyRow host outUser constr row =
      .ok (.error, { outUser with role := pqRecvRole host row.role }) := by
  simp only [dbVerifyRow, valid, if_true, missing, checkPassword]

/-- A password compared with anything but a bcrypt hash ends the process. -/
theorem dbVerifyRow_not_hash {password : CString}
    (valid : validateDbRole (pqRecvRole host row.role) = true)
    (given : constr.password = some password)
    (notHash : host.bcrypt.isHash (pqGetvalue row.passwordHash) = false) :
    dbVerifyRow host outUser constr row = .error .errnoExit := by
  simp only [dbVerifyRow, valid, if_true, given, checkPassword,
    passwordAccepted_not_hash _ _ notHash]

/-- A password compared with a bcrypt hash decides. -/
theorem dbVerifyRow_hash {password : CString}
    (valid : validateDbRole (pqRecvRole host row.role) = true)
    (given : constr.password = some password)
    (isHash : host.bcrypt.isHash (pqGetvalue row.passwordHash) = true) :
    dbVerifyRow host outUser constr row =
      if host.bcrypt.Matches password (pqGetvalue row.passwordHash) then
        .ok (.ok, ⟨pqRecvRole host row.role, row.userId⟩)
      else .ok (.error, { outUser with role := pqRecvRole host row.role }) := by
  simp only [dbVerifyRow, valid, if_true, given, checkPassword, passwordAccepted_hash _ _ isHash]
  by_cases right : host.bcrypt.Matches password (pqGetvalue row.passwordHash)
  · rw [decide_eq_true right, if_pos right]
  · rw [decide_eq_false right, if_neg right]

/-- **An accepted row has a valid role, and is the identity returned.** -/
theorem dbVerifyRow_ok {user : UserIdentity}
    (verified : dbVerifyRow host outUser constr row = .ok (.ok, user)) :
    validateDbRole user.role = true ∧ user = ⟨pqRecvRole host row.role, row.userId⟩ := by
  unfold dbVerifyRow at verified
  by_cases valid : validateDbRole (pqRecvRole host row.role) = true
  · simp only [valid, if_true] at verified
    split at verified
    · cases verified
    · simp only [Except.ok.injEq, Prod.mk.injEq, true_and] at verified
      subst verified
      exact ⟨valid, rfl⟩
    · cases verified
  · simp only [if_neg valid, Except.ok.injEq, Prod.mk.injEq, reduceCtorEq, false_and] at verified

/-- **An accepted connection string** is root's, or a row of the view `"user"` has its key. -/
theorem dbVerifyUserConstr_ok {user : UserIdentity}
    (verified : dbVerifyUserConstr host cfg moment db outUser constr = .ok (.ok, user)) :
    user = ⟨roleAdmin, 0⟩ ∨
      ∃ row ∈ db.1.userView, row.apiKey = constr.apiKey ∧
        validateDbRole user.role = true ∧ user = ⟨pqRecvRole host row.role, row.userId⟩ := by
  unfold dbVerifyUserConstr at verified
  split at verified
  · cases verified
  · simp only [Except.ok.injEq, Prod.mk.injEq, true_and] at verified
    exact Or.inl verified.symm
  · split at verified
    · split at verified
      · simp only [Except.ok.injEq, Prod.mk.injEq, reduceCtorEq, false_and] at verified
      · rename_i row rest selected
        have member : row ∈ selectByApiKey db constr.apiKey := by
          rw [selected]
          exact List.mem_cons_self
        obtain ⟨inView, sameKey⟩ := List.mem_filter.mp member
        exact Or.inr ⟨row, inView, by simpa using sameKey, dbVerifyRow_ok verified⟩
    · simp only [Except.ok.injEq, Prod.mk.injEq, reduceCtorEq, false_and] at verified

theorem validateDbRole_iff (role : Nat) :
    validateDbRole role = true ↔ role = roleAdmin ∨ role = roleMember ∨ role = rolePro := by
  simp only [validateDbRole, Bool.not_eq_true', decide_eq_false_iff_not]
  tauto

/-- **The role of an accepted user** is one of the three. -/
theorem role_of_verified {user : UserIdentity}
    (verified : dbVerifyUserConstr host cfg moment db outUser constr = .ok (.ok, user)) :
    user.role = roleAdmin ∨ user.role = roleMember ∨ user.role = rolePro := by
  rcases dbVerifyUserConstr_ok verified with rfl | ⟨_, _, _, valid, _⟩
  · exact Or.inl rfl
  · exact (validateDbRole_iff _).mp valid

/-! ### The exact condition -/

/-- **When a call meets its documentation.** -/
structure VerifyCondition (host : Host) (cfg : Cfg) (moment : Moment) (db : Db)
    (constr : Constr) : Prop where
  /-- The root key comes with a password. -/
  rootGiven : constr.apiKey = cfg.rootApiKey → constr.password ≠ none
  /-- A password that reaches the row found by the key meets a bcrypt hash there. -/
  hashes : ¬ RootAccepted host.bcrypt cfg constr → moment.up .verifyUserConstr = true →
    ∀ row ∈ (selectByApiKey db constr.apiKey).head?,
      validateDbRole (pqRecvRole host row.role) = true → constr.password ≠ none →
      ∃ hash ∈ row.passwordHash, host.bcrypt.isHash hash = true
  /-- A call without a password meets a user who has one. -/
  passwords : constr.password = none → DistinctKeys cfg db →
    moment.up .verifyUserConstr = true → ∀ user ∈ db.1.users, user.apiKey = constr.apiKey →
    ∀ role, IsClientOrPro db user role → user.passwordHash ≠ none

/-- With distinct keys, the lookup by a user's key finds that user. -/
theorem selectByApiKey_of_distinct (distinct : DistinctKeys cfg db) {user : UserRow}
    (member : user ∈ db.1.users) :
    selectByApiKey db user.apiKey = [db.1.userViewRow user] := by
  have only := distinct.1.filter_key member
  rw [selectByApiKey, Tables.userView, List.filter_map]
  show ((db.1.users.filter fun other => decide (other.apiKey = user.apiKey)).map
    db.1.userViewRow) = _
  rw [only]
  rfl

/-- With distinct keys, the lookup by root's key finds nobody. -/
theorem selectByApiKey_root (distinct : DistinctKeys cfg db) :
    selectByApiKey db cfg.rootApiKey = [] := by
  rw [selectByApiKey, Tables.userView, List.filter_map, List.map_eq_nil_iff,
    List.filter_eq_nil_iff]
  intro user member same
  have sameKey : (db.1.userViewRow user).apiKey = cfg.rootApiKey := by simpa using same
  exact distinct.2 user member sameKey

theorem validate_of_clientOrPro (host : Host) {user : UserRow} {role : Nat}
    (isClient : IsClientOrPro db user role) :
    pqRecvRole host (db.1.userViewRow user).role = role ∧ validateDbRole role = true := by
  obtain ⟨inView, which⟩ := isClient
  refine ⟨by rw [inView]; rfl, ?_⟩
  rcases which with rfl | rfl <;> rfl

/-- With distinct keys, a user's key leads to that user's row. -/
theorem dbVerifyUserConstr_of_user (loaded : cfg.Loaded host.bcrypt)
    (distinct : DistinctKeys cfg db) (executed : moment.up .verifyUserConstr = true)
    {user : UserRow} (member : user ∈ db.1.users) (own : constr.apiKey = user.apiKey) :
    dbVerifyUserConstr host cfg moment db outUser constr =
      dbVerifyRow host outUser constr (db.1.userViewRow user) := by
  have notRootKey : constr.apiKey ≠ cfg.rootApiKey := by
    rw [own]
    exact distinct.2 user member
  rw [dbVerifyUserConstr_of_given loaded (fun same => absurd same notRootKey)
    (fun accepted => notRootKey accepted.1), lookupUser, if_pos executed, own,
    selectByApiKey_of_distinct distinct member]

/-- Nobody is accepted as a user with somebody else's key. -/
theorem own_key_of_verified {user : UserRow} (member : user ∈ db.1.users) {role : Nat}
    (isClient : IsClientOrPro db user role)
    (verified : dbVerifyUserConstr host cfg moment db outUser constr =
      .ok (.ok, ⟨role, user.userId⟩)) : constr.apiKey = user.apiKey := by
  rcases dbVerifyUserConstr_ok verified with isRoot | ⟨row, inView, sameKey, _, same⟩
  · have roleIsAdmin : role = roleAdmin := congrArg UserIdentity.role isRoot
    rcases isClient.2 with rfl | rfl <;> cases roleIsAdmin
  · obtain ⟨other, inTable, rfl⟩ := List.mem_map.mp inView
    have sameId : user.userId = other.userId := congrArg UserIdentity.id same
    rw [db.2.userPkey.eq_of_key member inTable sameId, ← sameKey]
    rfl

/-- The condition makes the call return. -/
theorem VerifyCondition.returns (loaded : cfg.Loaded host.bcrypt)
    (condition : VerifyCondition host cfg moment db constr) :
    ∃ status user, dbVerifyUserConstr host cfg moment db outUser constr = .ok (status, user) := by
  by_cases accepted : RootAccepted host.bcrypt cfg constr
  · exact ⟨_, _, dbVerifyUserConstr_of_root loaded accepted⟩
  rw [dbVerifyUserConstr_of_given loaded condition.rootGiven accepted, lookupUser]
  by_cases executed : moment.up .verifyUserConstr = true
  · rw [if_pos executed]
    cases selected : selectByApiKey db constr.apiKey with
    | nil => exact ⟨_, _, rfl⟩
    | cons row rest =>
      show ∃ status user, dbVerifyRow host outUser constr row = .ok (status, user)
      by_cases valid : validateDbRole (pqRecvRole host row.role) = true
      · rcases given : constr.password with _ | password
        · exact ⟨_, _, dbVerifyRow_missing valid given⟩
        · obtain ⟨hash, stored, isHash⟩ := condition.hashes accepted executed row
            (by rw [selected]; rfl) valid (by rw [given]; exact Option.some_ne_none _)
          have read : pqGetvalue row.passwordHash = hash := by
            rw [Option.mem_def.mp stored]
            rfl
          rw [dbVerifyRow_hash valid given (by rw [read]; exact isHash)]
          split
          · exact ⟨_, _, rfl⟩
          · exact ⟨_, _, rfl⟩
      · exact ⟨_, _, dbVerifyRow_invalid (by simpa using valid)⟩
  · rw [if_neg executed]
    exact ⟨_, _, rfl⟩

/-- The condition makes the credentials decide. -/
theorem VerifyCondition.users (loaded : cfg.Loaded host.bcrypt)
    (condition : VerifyCondition host cfg moment db constr) (distinct : DistinctKeys cfg db)
    (executed : moment.up .verifyUserConstr = true) {user : UserRow}
    (member : user ∈ db.1.users) {role : Nat} (isClient : IsClientOrPro db user role) :
    dbVerifyUserConstr host cfg moment db outUser constr = .ok (.ok, ⟨role, user.userId⟩) ↔
      Authenticates host.bcrypt user constr := by
  by_cases own : constr.apiKey = user.apiKey
  · obtain ⟨sameRole, valid⟩ := validate_of_clientOrPro host isClient
    have validRow : validateDbRole (pqRecvRole host (db.1.userViewRow user).role) = true := by
      rw [sameRole]
      exact valid
    rw [dbVerifyUserConstr_of_user loaded distinct executed member own]
    rcases given : constr.password with _ | password
    · have stored := condition.passwords given distinct executed user member own.symm role isClient
      obtain ⟨hash, isStored⟩ := Option.ne_none_iff_exists'.mp stored
      rw [dbVerifyRow_missing validRow given, Authenticates, given, isStored]
      simp [PasswordGiven]
    · have notRoot : ¬ RootAccepted host.bcrypt cfg constr := fun accepted =>
        distinct.2 user member (own.symm.trans accepted.1)
      obtain ⟨hash, stored, isHash⟩ := condition.hashes notRoot executed
        (db.1.userViewRow user) (by rw [own, selectByApiKey_of_distinct distinct member]; rfl)
        validRow (by rw [given]; exact Option.some_ne_none _)
      have isStored : user.passwordHash = some hash := stored
      have read : pqGetvalue (db.1.userViewRow user).passwordHash = hash := by
        rw [Option.mem_def.mp stored]
        rfl
      rw [dbVerifyRow_hash validRow given (by rw [read]; exact isHash), read, sameRole,
        Authenticates, given, isStored]
      by_cases right : host.bcrypt.Matches password hash
      · simp [right, own, PasswordGiven, Tables.userViewRow]
      · simp [right, PasswordGiven]
  · constructor
    · exact fun verified => absurd (own_key_of_verified member isClient verified) own
    · exact fun authenticates => absurd authenticates.1 own

/-- The condition makes the root password decide. -/
theorem VerifyCondition.root (loaded : cfg.Loaded host.bcrypt)
    (condition : VerifyCondition host cfg moment db constr) (distinct : DistinctKeys cfg db)
    (same : constr.apiKey = cfg.rootApiKey) :
    dbVerifyUserConstr host cfg moment db outUser constr = .ok (.ok, ⟨roleAdmin, 0⟩) ↔
      RootAuthenticates host.bcrypt cfg constr := by
  constructor
  · intro verified
    by_contra wrong
    rw [dbVerifyUserConstr_of_given loaded condition.rootGiven (fun accepted => wrong accepted.2),
      lookupUser, same, selectByApiKey_root distinct] at verified
    split at verified <;> simp at verified
  · exact fun right => dbVerifyUserConstr_of_root loaded ⟨same, right⟩

/-- A call that returns has compared no password with anything but a hash. -/
theorem hashes_of_returns (loaded : cfg.Loaded host.bcrypt)
    (given : constr.apiKey = cfg.rootApiKey → constr.password ≠ none)
    (returns : ∃ status user,
      dbVerifyUserConstr host cfg moment db outUser constr = .ok (status, user))
    (notRoot : ¬ RootAccepted host.bcrypt cfg constr)
    (executed : moment.up .verifyUserConstr = true) {row : UserViewRow}
    (selected : row ∈ (selectByApiKey db constr.apiKey).head?)
    (valid : validateDbRole (pqRecvRole host row.role) = true)
    (hasPassword : constr.password ≠ none) :
    ∃ hash ∈ row.passwordHash, host.bcrypt.isHash hash = true := by
  obtain ⟨password, isGiven⟩ := Option.ne_none_iff_exists'.mp hasPassword
  obtain ⟨rest, isHead⟩ := List.head?_eq_some_iff.mp selected
  obtain ⟨status, user, result⟩ := returns
  rw [dbVerifyUserConstr_of_given loaded given notRoot, lookupUser, if_pos executed,
    isHead] at result
  by_contra noHash
  have notHash : host.bcrypt.isHash (pqGetvalue row.passwordHash) = false := by
    cases stored : row.passwordHash with
    | none => exact host.bcrypt.empty_not_hash
    | some hash =>
      have refused : ¬ host.bcrypt.isHash hash = true := fun isHash =>
        noHash ⟨hash, stored, isHash⟩
      exact Bool.eq_false_iff.mpr refused
  have exits : dbVerifyRow host outUser constr row = .error .errnoExit :=
    dbVerifyRow_not_hash valid isGiven notHash
  exact absurd (result.symm.trans exits) (by simp)

/-- A call without a password that meets its documentation meets a user who has one. -/
theorem passwords_of_documented (loaded : cfg.Loaded host.bcrypt)
    (documented : VerifiesAsDocumented host cfg moment db constr)
    (missing : constr.password = none) (distinct : DistinctKeys cfg db)
    (executed : moment.up .verifyUserConstr = true) {user : UserRow}
    (member : user ∈ db.1.users) (own : user.apiKey = constr.apiKey) {role : Nat}
    (isClient : IsClientOrPro db user role) : user.passwordHash ≠ none := by
  intro noHash
  have authenticates : Authenticates host.bcrypt user constr := by
    rw [Authenticates, noHash, missing]
    exact ⟨own.symm, trivial⟩
  have verified := (documented.users distinct executed user member role isClient
    .indeterminate).mpr authenticates
  obtain ⟨sameRole, valid⟩ := validate_of_clientOrPro host isClient
  rw [dbVerifyUserConstr_of_user loaded distinct executed member own.symm,
    dbVerifyRow_missing (by rw [sameRole]; exact valid) missing] at verified
  simp at verified

/-- **A call meets its documentation exactly when the root key comes with a password, a password
meets a hash, and a call without a password meets a user who has one.** -/
theorem verifies_iff (loaded : cfg.Loaded host.bcrypt) :
    VerifiesAsDocumented host cfg moment db constr ↔
      VerifyCondition host cfg moment db constr := by
  constructor
  · intro documented
    have given : constr.apiKey = cfg.rootApiKey → constr.password ≠ none := by
      intro same missing
      obtain ⟨_, _, result⟩ := documented.returns .indeterminate
      exact absurd (result.symm.trans (dbVerifyUserConstr_null same missing)) (by simp)
    exact
      { rootGiven := given
        hashes := fun notRoot executed row selected valid hasPassword =>
          hashes_of_returns loaded given (documented.returns .indeterminate) notRoot executed
            selected valid hasPassword
        passwords := fun missing distinct executed user member own role isClient =>
          passwords_of_documented loaded documented missing distinct executed member own isClient }
  · intro condition
    exact
      { returns := fun _ => condition.returns loaded
        users := fun distinct executed user member role isClient _ =>
          condition.users loaded distinct executed member isClient
        root := fun distinct same _ => condition.root loaded distinct same }

end

/-- The test configuration was loaded, and the test member's call is as documented. -/
theorem member1_verifies :
    testCfg.Loaded testHost.bcrypt ∧
      VerifiesAsDocumented testHost testCfg (allUp 0) useTestDataUsers constrMember1 :=
  ⟨by decide, (verifies_iff (by decide)).mpr
    { rootGiven := by decide
      hashes := by decide
      passwords := fun missing => absurd missing (by decide) }⟩

/-- A member who has no password: giving one stops the server, giving none is refused. The root
key without a password hands bcrypt a null pointer. -/
theorem passwordless_not_documented :
    (¬ VerifiesAsDocumented testHost testCfg (allUp 0) passwordlessMember constrMember1) ∧
    (¬ VerifiesAsDocumented testHost testCfg (allUp 0) passwordlessMember
      ⟨apiKeyMember1, none⟩) ∧
    ¬ VerifiesAsDocumented testHost testCfg (allUp 0) useTestDataUsers
      ⟨testCfg.rootApiKey, none⟩ := by
  refine ⟨?_, ?_, ?_⟩
  · intro documented
    obtain ⟨_, _, result⟩ := documented.returns .indeterminate
    have exits : dbVerifyUserConstr testHost testCfg (allUp 0) passwordlessMember .indeterminate
        constrMember1 = .error .errnoExit := by decide
    exact absurd (result.symm.trans exits) (by simp)
  · intro documented
    have refused : dbVerifyUserConstr testHost testCfg (allUp 0) passwordlessMember
        .indeterminate ⟨apiKeyMember1, none⟩ = .ok (.error, ⟨roleMember, 0⟩) := by decide
    have accepted := (documented.users (by decide) rfl ⟨1003, apiKeyMember1, none⟩ (by decide)
      roleMember (by decide) .indeterminate).mpr (by decide)
    exact absurd (refused.symm.trans accepted) (by decide)
  · intro documented
    obtain ⟨_, _, result⟩ := documented.returns .indeterminate
    have null : dbVerifyUserConstr testHost testCfg (allUp 0) useTestDataUsers .indeterminate
        ⟨testCfg.rootApiKey, none⟩ = .error .nullPassword := by decide
    exact absurd (result.symm.trans null) (by simp)

end Tchatator
