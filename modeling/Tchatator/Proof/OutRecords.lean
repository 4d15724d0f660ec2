/-
**What a call that fails leaves of the caller's record** (`db_verify_user_constr`, `db_get_user`).

* `RecordKept` — what `db.h` promises of a record: it is untouched unless the call succeeds;
* `dbVerifyRow_kept_iff` — the role is stored before it is checked, and before the password is;
* **`records_kept_iff`** — so the promise is kept exactly where no row is read that is refused after
  its role has been stored, or the record has this role already.
-/

import Tchatator.Model.TestData
import Tchatator.Proof.Verification

namespace Tchatator

/-! ### Contracts -/

/-- **The record is untouched** unless the call succeeds. -/
def RecordKept {ρ : Type} (result : Except Fault (Errstatus × ρ)) (record : ρ) : Prop :=
  ∀ status after, result = .ok (status, after) → status ≠ .ok → after = record

/-- A row suits a record and a connection string: it has the role of the record, or its own role is
valid and the password is given. -/
def RowSuits (host : Host) (outUser : UserIdentity) (constr : Constr) (row : UserViewRow) : Prop :=
  pqRecvRole host row.role = outUser.role ∨
    (validateDbRole (pqRecvRole host row.role) = true ∧ constr.password ≠ none ∧
      PasswordGiven host.bcrypt row.passwordHash constr.password)

/-! ### Results -/

section Results

variable {ρ : Type} {record after : ρ}

theorem recordKept_fault (fault : Fault) : RecordKept (.error fault) record := fun _ _ => nofun

theorem recordKept_ok : RecordKept (.ok (.ok, after)) record := by
  rintro _ _ ⟨⟩ failed
  exact absurd rfl failed

/-- A call that fails keeps the record when it leaves the one it was given. -/
theorem recordKept_failed_iff {status : Errstatus} (failed : status ≠ .ok) :
    RecordKept (.ok (status, after)) record ↔ after = record := by
  constructor
  · exact fun kept => kept status after rfl failed
  · rintro same _ _ ⟨⟩ _
    exact same

end Results

/-! ### Calls -/

section

variable {host : Host} {cfg : Cfg} {moment : Moment} {db : Db} {outUser : UserIdentity}
  {constr : Constr} {row : UserViewRow}

theorem withRole_eq_self_iff {role : Nat} :
    ({ outUser with role := role } : UserIdentity) = outUser ↔ role = outUser.role := by
  cases outUser
  simp

/-- **A row that is refused leaves its role in the record.** -/
theorem dbVerifyRow_kept_iff
    (returns : ¬ ∃ fault, dbVerifyRow host outUser constr row = .error fault) :
    RecordKept (dbVerifyRow host outUser constr row) outUser ↔
      RowSuits host outUser constr row := by
  have notError : Errstatus.error ≠ .ok := by decide
  have notHandled : Errstatus.handled ≠ .ok := by decide
  unfold RowSuits
  by_cases valid : validateDbRole (pqRecvRole host row.role) = true
  · rw [and_iff_right valid]
    rcases given : constr.password with _ | password
    · rw [dbVerifyRow_missing valid given, recordKept_failed_iff notError, withRole_eq_self_iff]
      exact (or_iff_left fun right => right.1 rfl).symm
    · have isHash : host.bcrypt.isHash (pqGetvalue row.passwordHash) = true := by
        by_contra notHash
        exact returns ⟨_, dbVerifyRow_not_hash valid given (Bool.eq_false_iff.mpr notHash)⟩
      rw [and_iff_right (Option.some_ne_none password), passwordGiven_iff_matches isHash,
        dbVerifyRow_hash valid given isHash]
      by_cases right : host.bcrypt.Matches password (pqGetvalue row.passwordHash)
      · rw [if_pos right]
        exact iff_of_true recordKept_ok (Or.inr right)
      · rw [if_neg right, recordKept_failed_iff notError, withRole_eq_self_iff, or_iff_left right]
  · rw [dbVerifyRow_invalid (Bool.eq_false_iff.mpr valid), recordKept_failed_iff notHandled,
      withRole_eq_self_iff]
    exact (or_iff_left fun right => valid right.1).symm

/-- **When a check keeps the record.** -/
theorem verification_kept_iff :
    RecordKept (dbVerifyUserConstr host cfg moment db outUser constr) outUser ↔
      VerificationStops host cfg moment db constr ∨ RootAccepted host.bcrypt cfg constr ∨
        moment.up .verifyUserConstr = false ∨
        ∀ row ∈ (selectByApiKey db constr.apiKey).head?, RowSuits host outUser constr row := by
  by_cases stops : VerificationStops host cfg moment db constr
  · obtain ⟨fault, stopped⟩ := (dbVerifyUserConstr_stops_iff outUser).mpr stops
    rw [stopped]
    exact iff_of_true (recordKept_fault fault) (Or.inl stops)
  have rootReturns := fun atRoot => stops (Or.inl atRoot)
  rw [or_iff_right stops]
  by_cases accepted : RootAccepted host.bcrypt cfg constr
  · rw [dbVerifyUserConstr_of_accepted rootReturns accepted]
    exact iff_of_true recordKept_ok (Or.inl accepted)
  rw [or_iff_right accepted]
  have returns := mt (dbVerifyUserConstr_stops_iff outUser).mp stops
  rw [dbVerifyUserConstr_of_lookup rootReturns accepted] at returns ⊢
  unfold lookupUser at returns ⊢
  by_cases executed : moment.up .verifyUserConstr = true
  · have notDown : ¬ moment.up .verifyUserConstr = false := fun down => by
      cases down.symm.trans executed
    rw [if_pos executed] at returns ⊢
    rw [or_iff_right notDown]
    cases selected : selectByApiKey db constr.apiKey with
    | nil =>
      refine iff_of_true ((recordKept_failed_iff (by decide)).mpr rfl) ?_
      rintro _ ⟨⟩
    | cons row rest =>
      rw [selected] at returns
      refine (dbVerifyRow_kept_iff returns).trans ?_
      simp
  · rw [if_neg executed]
    exact iff_of_true ((recordKept_failed_iff (by decide)).mpr rfl)
      (Or.inl (Bool.eq_false_iff.mpr executed))

/-- A user whose role is none of the three leaves the role in the record. -/
theorem dbGetUser_kept_iff_of_row {user : User} {rest : List UserViewRow}
    (executed : moment.up .getUser = true)
    (selected : db.1.userView.filter (fun row => row.userId = user.id) = row :: rest) :
    RecordKept (.ok (dbGetUser host moment db user)) user ↔
      pqRecvRole host row.role = user.role ∨
        validateDbRole (pqRecvRole host row.role) = true := by
  have sameId : row.userId = user.id := by
    have isSelected : row ∈ db.1.userView.filter fun row => row.userId = user.id :=
      selected ▸ List.mem_cons_self
    simpa using (List.mem_filter.mp isSelected).2
  rw [validateDbRole_iff, dbGetUser, if_pos executed, selected]
  dsimp only
  by_cases isAdmin : pqRecvRole host row.role = roleAdmin
  · rw [if_pos isAdmin]
    exact iff_of_true recordKept_ok (Or.inr (Or.inl isAdmin))
  by_cases isMember : pqRecvRole host row.role = roleMember
  · rw [if_neg isAdmin, if_pos isMember]
    exact iff_of_true recordKept_ok (Or.inr (Or.inr (Or.inl isMember)))
  by_cases isPro : pqRecvRole host row.role = rolePro
  · rw [if_neg isAdmin, if_neg isMember, if_pos isPro]
    exact iff_of_true recordKept_ok (Or.inr (Or.inr (Or.inr isPro)))
  rw [if_neg isAdmin, if_neg isMember, if_neg isPro, recordKept_failed_iff (by decide)]
  obtain ⟨id, role, name⟩ := user
  simp only [User.mk.injEq, sameId, true_and, and_true, isAdmin, isMember, isPro, or_false]

/-- **When `db_get_user` keeps the record.** The identifier it stores is the one it was given. -/
theorem getUser_kept_iff {user : User} :
    RecordKept (.ok (dbGetUser host moment db user)) user ↔
      moment.up .getUser = false ∨
        ∀ row ∈ (db.1.userView.filter fun row => row.userId = user.id).head?,
          pqRecvRole host row.role = user.role ∨
            validateDbRole (pqRecvRole host row.role) = true := by
  by_cases executed : moment.up .getUser = true
  · have notDown : ¬ moment.up .getUser = false := fun down => by cases down.symm.trans executed
    rw [or_iff_right notDown]
    cases selected : db.1.userView.filter fun row => row.userId = user.id with
    | nil =>
      rw [dbGetUser, if_pos executed, selected]
      refine iff_of_true ((recordKept_failed_iff (by decide)).mpr rfl) ?_
      rintro _ ⟨⟩
    | cons row rest =>
      refine (dbGetUser_kept_iff_of_row executed selected).trans ?_
      simp
  · rw [dbGetUser, if_neg executed]
    exact iff_of_true ((recordKept_failed_iff (by decide)).mpr rfl)
      (Or.inl (Bool.eq_false_iff.mpr executed))

end

/-- **The records are kept exactly where no row is read that is refused after its role has been
stored**, or the record has this role already. -/
theorem records_kept_iff (host : Host) (cfg : Cfg) (moment : Moment) (db : Db)
    (outUser : UserIdentity) (constr : Constr) (user : User) :
    (RecordKept (dbVerifyUserConstr host cfg moment db outUser constr) outUser ↔
      VerificationStops host cfg moment db constr ∨ RootAccepted host.bcrypt cfg constr ∨
        moment.up .verifyUserConstr = false ∨
        ∀ row ∈ (selectByApiKey db constr.apiKey).head?, RowSuits host outUser constr row) ∧
    (RecordKept (.ok (dbGetUser host moment db user)) user ↔
      moment.up .getUser = false ∨
        ∀ row ∈ (db.1.userView.filter fun row => row.userId = user.id).head?,
          pqRecvRole host row.role = user.role ∨
            validateDbRole (pqRecvRole host row.role) = true) :=
  ⟨verification_kept_iff, getUser_kept_iff⟩

/-- A user who is of no class. -/
def classlessUser : Db :=
  ⟨{ users := [⟨1003, apiKeyMember1, some member1Hash⟩]
     members := []
     pros := []
     admins := []
     msgs := []
     singleBlocks := [] }, by decide⟩

/-- A wrong password leaves the role of its user in the record, and so does a role that is none. -/
theorem records_not_kept :
    ¬ RecordKept (dbVerifyUserConstr testHost testCfg (allUp 0) useTestDataUsers ⟨0, 0⟩
        ⟨apiKeyMember1, some (clit "member2_mdp")⟩) ⟨0, 0⟩ ∧
      ¬ RecordKept (.ok (dbGetUser testHost (allUp 0) classlessUser ⟨1003, roleAdmin, .unset⟩))
        ⟨1003, roleAdmin, .unset⟩ := by
  have refused : dbVerifyUserConstr testHost testCfg (allUp 0) useTestDataUsers ⟨0, 0⟩
      ⟨apiKeyMember1, some (clit "member2_mdp")⟩ = .ok (.error, ⟨roleMember, 0⟩) := by decide
  have unread : dbGetUser testHost (allUp 0) classlessUser ⟨1003, roleAdmin, .unset⟩ =
      (.handled, ⟨1003, 0, .unset⟩) := by decide
  rw [refused, unread]
  exact ⟨mt (recordKept_failed_iff (by decide)).mp (by decide),
    mt (recordKept_failed_iff (by decide)).mp (by decide)⟩

end Tchatator
