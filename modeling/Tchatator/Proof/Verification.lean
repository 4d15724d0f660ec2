/-
**What the check of a connection string returns, and when** (`db_verify_user_constr`).

* `VerificationStops` — bcrypt gets a null pointer, or something that is no hash;
* `dbVerifyUserConstr_stops_iff` — then, and only then, a call does not return;
* **`dbVerifyUserConstr_outcome`** — every other call accepts root, or accepts, refuses or cannot
  judge the row found by the key: what a caller can meet, said once;
* `verified_cases` — the same for a call that accepts.
-/

import Tchatator.Proof.Authentication

namespace Tchatator

open Keyed

section

variable {host : Host} {cfg : Cfg} {moment : Moment} {db : Db} {outUser : UserIdentity}
  {constr : Constr} {row : UserViewRow}

/-! ### Calls that do not return -/

/-- **A call does not return**: bcrypt gets a null pointer, or compares a password with something
that is no hash, root's or that of the row found by the key. -/
def VerificationStops (host : Host) (cfg : Cfg) (moment : Moment) (db : Db) (constr : Constr) :
    Prop :=
  (constr.apiKey = cfg.rootApiKey ∧ (constr.password = none ∨ ¬ cfg.Loaded host.bcrypt)) ∨
    (¬ RootAccepted host.bcrypt cfg constr ∧ constr.password ≠ none ∧
      moment.up .verifyUserConstr = true ∧
      ∃ row ∈ (selectByApiKey db constr.apiKey).head?,
        validateDbRole (pqRecvRole host row.role) = true ∧
          host.bcrypt.isHash (pqGetvalue row.passwordHash) = false)

theorem dbVerifyRow_stops_iff :
    (∃ fault, dbVerifyRow host outUser constr row = .error fault) ↔
      constr.password ≠ none ∧ validateDbRole (pqRecvRole host row.role) = true ∧
        host.bcrypt.isHash (pqGetvalue row.passwordHash) = false := by
  by_cases valid : validateDbRole (pqRecvRole host row.role) = true
  · rcases given : constr.password with _ | password
    · rw [dbVerifyRow_missing valid given]
      exact iff_of_false (by rintro ⟨_, ⟨⟩⟩) fun stops => stops.1 rfl
    · by_cases isHash : host.bcrypt.isHash (pqGetvalue row.passwordHash) = true
      · rw [dbVerifyRow_hash valid given isHash]
        refine iff_of_false ?_ fun stops => by simp [isHash] at stops
        split
        · rintro ⟨_, ⟨⟩⟩
        · rintro ⟨_, ⟨⟩⟩
      · have notHash : host.bcrypt.isHash (pqGetvalue row.passwordHash) = false := by
          simpa using isHash
        rw [dbVerifyRow_not_hash valid given notHash]
        exact iff_of_true ⟨_, rfl⟩ ⟨Option.some_ne_none _, valid, notHash⟩
  · rw [dbVerifyRow_invalid (by simpa using valid)]
    exact iff_of_false (by rintro ⟨_, ⟨⟩⟩) fun stops => valid stops.2.1

/-- **The row of a user whose key and password are given is accepted**, if it has a valid role. -/
theorem dbVerifyRow_of_authenticates {user : UserRow} (given : constr.password ≠ none)
    (authenticates : Authenticates host.bcrypt user constr)
    (valid : validateDbRole (pqRecvRole host (db.1.userViewRow user).role) = true) :
    dbVerifyRow host outUser constr (db.1.userViewRow user) =
      .ok (.ok, ⟨pqRecvRole host (db.1.userViewRow user).role, user.userId⟩) := by
  obtain ⟨password, isGiven⟩ := Option.ne_none_iff_exists'.mp given
  have right := authenticates.2
  rw [isGiven] at right
  obtain ⟨hash, stored, isMatch⟩ := right.matches
  have read : pqGetvalue (db.1.userViewRow user).passwordHash = hash := by
    show pqGetvalue user.passwordHash = hash
    rw [stored]
    rfl
  rw [dbVerifyRow_hash valid isGiven (by rw [read]; exact isHash_of_matches _ isMatch), read,
    if_pos isMatch]
  rfl

theorem lookupUser_stops_iff (outUser : UserIdentity) :
    (∃ fault, lookupUser host moment db outUser constr = .error fault) ↔
      constr.password ≠ none ∧ moment.up .verifyUserConstr = true ∧
        ∃ row ∈ (selectByApiKey db constr.apiKey).head?,
          validateDbRole (pqRecvRole host row.role) = true ∧
            host.bcrypt.isHash (pqGetvalue row.passwordHash) = false := by
  rw [lookupUser]
  by_cases executed : moment.up .verifyUserConstr = true
  · rw [if_pos executed]
    cases selected : selectByApiKey db constr.apiKey with
    | nil =>
      refine iff_of_false (by rintro ⟨_, ⟨⟩⟩) ?_
      rintro ⟨_, _, _, ⟨⟩, _⟩
    | cons row rest =>
      rw [dbVerifyRow_stops_iff]
      constructor
      · rintro ⟨given, valid, notHash⟩
        exact ⟨given, executed, row, rfl, valid, notHash⟩
      · rintro ⟨given, _, _, ⟨⟩, valid, notHash⟩
        exact ⟨given, valid, notHash⟩
  · rw [if_neg executed]
    exact iff_of_false (by rintro ⟨_, ⟨⟩⟩) fun stops => executed stops.2.1

/-- The row that is read for a key is that of the first user with the key. -/
theorem selectByApiKey_head? (db : Db) (apiKey : Uuid4) :
    (selectByApiKey db apiKey).head? =
      (rowWith UserRow.apiKey apiKey db.1.users).map db.1.userViewRow := by
  rw [selectByApiKey, Tables.userView, List.filter_map, List.head?_map, List.head?_filter]
  rfl

/-- **The lookup reads the first user with the key.** -/
theorem lookupUser_eq (host : Host) (moment : Moment) (db : Db) (outUser : UserIdentity)
    (constr : Constr) :
    lookupUser host moment db outUser constr =
      if moment.up .verifyUserConstr then
        match rowWith UserRow.apiKey constr.apiKey db.1.users with
        | none => .ok (.error, outUser)
        | some user => dbVerifyRow host outUser constr (db.1.userViewRow user)
      else .ok (.handled, outUser) := by
  have isFirst := selectByApiKey_head? db constr.apiKey
  rw [lookupUser]
  cases found : rowWith UserRow.apiKey constr.apiKey db.1.users with
  | none =>
    rw [found, Option.map_none, List.head?_eq_none_iff] at isFirst
    rw [isFirst]
  | some user =>
    rw [found, Option.map_some, List.head?_eq_some_iff] at isFirst
    obtain ⟨rest, selected⟩ := isFirst
    rw [selected]

/-- Root's check returns, and refuses: what is left is the lookup. -/
theorem dbVerifyUserConstr_of_lookup
    (returns : ¬ (constr.apiKey = cfg.rootApiKey ∧
      (constr.password = none ∨ ¬ cfg.Loaded host.bcrypt)))
    (notRoot : ¬ RootAccepted host.bcrypt cfg constr) :
    dbVerifyUserConstr host cfg moment db outUser constr =
      lookupUser host moment db outUser constr := by
  by_cases same : constr.apiKey = cfg.rootApiKey
  · have loaded : cfg.Loaded host.bcrypt := by
      by_contra notLoaded
      exact returns ⟨same, Or.inr notLoaded⟩
    exact dbVerifyUserConstr_of_given loaded (fun _ missing => returns ⟨same, Or.inl missing⟩) notRoot
  · rw [dbVerifyUserConstr, cfgVerifyRootConstr_other same]
    rfl

/-- Root's check returns, and accepts. -/
theorem dbVerifyUserConstr_of_accepted
    (returns : ¬ (constr.apiKey = cfg.rootApiKey ∧
      (constr.password = none ∨ ¬ cfg.Loaded host.bcrypt)))
    (accepted : RootAccepted host.bcrypt cfg constr) :
    dbVerifyUserConstr host cfg moment db outUser constr = .ok (.ok, ⟨roleAdmin, 0⟩) := by
  have loaded : cfg.Loaded host.bcrypt := by
    by_contra notLoaded
    exact returns ⟨accepted.1, Or.inr notLoaded⟩
  exact dbVerifyUserConstr_of_root loaded accepted

/-- **When a call does not return.** -/
theorem dbVerifyUserConstr_stops_iff (outUser : UserIdentity) :
    (∃ fault, dbVerifyUserConstr host cfg moment db outUser constr = .error fault) ↔
      VerificationStops host cfg moment db constr := by
  by_cases atRoot : constr.apiKey = cfg.rootApiKey ∧
      (constr.password = none ∨ ¬ cfg.Loaded host.bcrypt)
  · refine iff_of_true ?_ (Or.inl atRoot)
    obtain ⟨same, wrong⟩ := atRoot
    rcases given : constr.password with _ | password
    · exact ⟨_, dbVerifyUserConstr_null same given⟩
    · have notLoaded : ¬ cfg.Loaded host.bcrypt := by
        rcases wrong with missing | notLoaded
        · cases given.symm.trans missing
        · exact notLoaded
      have check : cfgVerifyRootConstr host.bcrypt cfg constr = .error .errnoExit := by
        rw [cfgVerifyRootConstr_root same, given,
          passwordAccepted_not_hash _ _ (Bool.eq_false_iff.mpr notLoaded)]
      rw [dbVerifyUserConstr, check]
      exact ⟨_, rfl⟩
  · rw [VerificationStops, or_iff_right atRoot]
    by_cases accepted : RootAccepted host.bcrypt cfg constr
    · rw [dbVerifyUserConstr_of_accepted atRoot accepted]
      exact iff_of_false (by rintro ⟨_, ⟨⟩⟩) fun stops => stops.1 accepted
    · rw [and_iff_right accepted, ← lookupUser_stops_iff outUser,
        dbVerifyUserConstr_of_lookup atRoot accepted]

/-! ### The outcomes of a call -/

/-- **What a call returns, and when**, by the row found by the key. -/
inductive VerificationOutcome (host : Host) (cfg : Cfg) (moment : Moment) (db : Db)
    (constr : Constr) : Except Fault (Errstatus × UserIdentity) → Prop
  | stops (fault : Fault) : VerificationStops host cfg moment db constr →
      VerificationOutcome host cfg moment db constr (.error fault)
  | root : RootAccepted host.bcrypt cfg constr →
      VerificationOutcome host cfg moment db constr (.ok (.ok, ⟨roleAdmin, 0⟩))
  | down (user : UserIdentity) : ¬ RootAccepted host.bcrypt cfg constr →
      moment.up .verifyUserConstr = false →
      VerificationOutcome host cfg moment db constr (.ok (.handled, user))
  | invalid (user : UserIdentity) (row : UserViewRow) : ¬ RootAccepted host.bcrypt cfg constr →
      moment.up .verifyUserConstr = true → row ∈ (selectByApiKey db constr.apiKey).head? →
      validateDbRole (pqRecvRole host row.role) = false →
      VerificationOutcome host cfg moment db constr (.ok (.handled, user))
  | unknown (user : UserIdentity) : ¬ RootAccepted host.bcrypt cfg constr →
      moment.up .verifyUserConstr = true → (selectByApiKey db constr.apiKey).head? = none →
      VerificationOutcome host cfg moment db constr (.ok (.error, user))
  | refused (user : UserIdentity) (row : UserViewRow) : ¬ RootAccepted host.bcrypt cfg constr →
      moment.up .verifyUserConstr = true → row ∈ (selectByApiKey db constr.apiKey).head? →
      validateDbRole (pqRecvRole host row.role) = true →
      (constr.password ≠ none →
        ¬ PasswordGiven host.bcrypt row.passwordHash constr.password) →
      VerificationOutcome host cfg moment db constr (.ok (.error, user))
  | accepted (row : UserViewRow) : ¬ RootAccepted host.bcrypt cfg constr →
      moment.up .verifyUserConstr = true → row ∈ (selectByApiKey db constr.apiKey).head? →
      validateDbRole (pqRecvRole host row.role) = true → constr.password ≠ none →
      PasswordGiven host.bcrypt row.passwordHash constr.password →
      VerificationOutcome host cfg moment db constr
        (.ok (.ok, ⟨pqRecvRole host row.role, row.userId⟩))

/-- The hash that is read is that of the row. -/
theorem passwordGiven_iff_matches {row : UserViewRow} {password : CString}
    (isHash : host.bcrypt.isHash (pqGetvalue row.passwordHash) = true) :
    PasswordGiven host.bcrypt row.passwordHash (some password) ↔
      host.bcrypt.Matches password (pqGetvalue row.passwordHash) := by
  cases stored : row.passwordHash with
  | none =>
    have notHash : host.bcrypt.isHash (pqGetvalue row.passwordHash) = false := by
      rw [stored]
      exact host.bcrypt.empty_not_hash
    cases isHash.symm.trans notHash
  | some hash => exact Iff.rfl

/-- **Every call has one of these outcomes.** -/
theorem dbVerifyUserConstr_outcome (host : Host) (cfg : Cfg) (moment : Moment) (db : Db)
    (outUser : UserIdentity) (constr : Constr) :
    VerificationOutcome host cfg moment db constr
      (dbVerifyUserConstr host cfg moment db outUser constr) := by
  by_cases stops : VerificationStops host cfg moment db constr
  · obtain ⟨fault, stopped⟩ := (dbVerifyUserConstr_stops_iff outUser).mpr stops
    rw [stopped]
    exact .stops fault stops
  have atRoot := fun returns => stops (Or.inl returns)
  by_cases accepted : RootAccepted host.bcrypt cfg constr
  · rw [dbVerifyUserConstr_of_accepted atRoot accepted]
    exact .root accepted
  rw [dbVerifyUserConstr_of_lookup atRoot accepted, lookupUser]
  by_cases executed : moment.up .verifyUserConstr = true
  · rw [if_pos executed]
    cases selected : selectByApiKey db constr.apiKey with
    | nil => exact .unknown outUser accepted executed (by rw [selected]; rfl)
    | cons row rest =>
      have found : row ∈ (selectByApiKey db constr.apiKey).head? := by
        rw [selected]
        rfl
      show VerificationOutcome host cfg moment db constr (dbVerifyRow host outUser constr row)
      by_cases valid : validateDbRole (pqRecvRole host row.role) = true
      · rcases given : constr.password with _ | password
        · rw [dbVerifyRow_missing valid given]
          exact .refused _ row accepted executed found valid fun some => absurd given some
        · have isHash : host.bcrypt.isHash (pqGetvalue row.passwordHash) = true := by
            by_contra notHash
            exact stops (Or.inr ⟨accepted, by rw [given]; exact Option.some_ne_none _, executed, row,
              found, valid, Bool.eq_false_iff.mpr notHash⟩)
          rw [dbVerifyRow_hash valid given isHash]
          split
          · rename_i right
            refine .accepted row accepted executed found valid ?_ ?_
            · rw [given]
              exact Option.some_ne_none _
            · rw [given]
              exact (passwordGiven_iff_matches isHash).mpr right
          · rename_i wrong
            refine .refused _ row accepted executed found valid fun _ right => wrong ?_
            rw [given] at right
            exact (passwordGiven_iff_matches isHash).mp right
      · rw [dbVerifyRow_invalid (by simpa using valid)]
        exact .invalid _ row accepted executed found (by simpa using valid)
  · rw [if_neg executed]
    exact .down outUser accepted (by simpa using executed)

/-- **Whoever is accepted** is root, or gave the password of the row read first for the key. -/
theorem verified_cases {user : UserIdentity}
    (verified : dbVerifyUserConstr host cfg moment db outUser constr = .ok (.ok, user)) :
    (RootAccepted host.bcrypt cfg constr ∧ user = ⟨roleAdmin, 0⟩) ∨
      (¬ RootAccepted host.bcrypt cfg constr ∧ constr.password ≠ none ∧
        ∃ row ∈ (selectByApiKey db constr.apiKey).head?,
          PasswordGiven host.bcrypt row.passwordHash constr.password ∧
            user = ⟨pqRecvRole host row.role, row.userId⟩) := by
  have outcome := dbVerifyUserConstr_outcome host cfg moment db outUser constr
  generalize dbVerifyUserConstr host cfg moment db outUser constr = result at outcome verified
  cases outcome with
  | root accepted =>
    cases verified
    exact Or.inl ⟨accepted, rfl⟩
  | accepted row notRoot _ found _ given right =>
    cases verified
    exact Or.inr ⟨notRoot, given, row, found, right, rfl⟩
  | stops | down | invalid | unknown | refused => cases verified

end

end Tchatator
