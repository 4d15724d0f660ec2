/-
**A user's table and the readers of the user's role** (`db_verify_user_constr`,
`db_get_user_role`, `db_get_user`).

* `OnlyIn` — the user has a row in the table of one role, and in no other;
* `ReadersAgree` — the three readers give the user that role: the user can authenticate, is found by
  `whois` and can be written to;
* `viewRole_of_only` — the view `"user"` writes `0` for an administrator, where `role_admin` is `1`;
* **`readers_agree_iff`** — so the readers agree exactly for whoever is no administrator, as far as
  the credentials lead to the user's row.
-/

import Tchatator.Proof.Branches

namespace Tchatator

open Keyed

/-! ### Tables and readers -/

/-- A user has a row in the table of a role. -/
inductive InTable (tables : Tables) (userId : Int) : Nat → Prop
  | admin (row : AdminRow) : row ∈ tables.admins → row.userId = userId →
      InTable tables userId roleAdmin
  | member (row : MemberRow) : row ∈ tables.members → row.userId = userId →
      InTable tables userId roleMember
  | pro (row : ProRow) : row ∈ tables.pros → row.userId = userId →
      InTable tables userId rolePro

/-- The only table with a row of the user is that of the role. -/
structure OnlyIn (tables : Tables) (userId : Int) (role : Nat) : Prop where
  has : InTable tables userId role
  only : ∀ other, InTable tables userId other → other = role

/-- **The readers agree with the tables.** -/
structure ReadersAgree (host : Host) (cfg : Cfg) (moment : Moment) (world : World) (user : UserRow)
    (role : Nat) (constr : Constr) : Prop where
  verified : Authenticates host.bcrypt user constr → ∀ outUser,
    dbVerifyUserConstr host cfg moment world.db outUser constr = .ok (.ok, ⟨role, user.userId⟩)
  looked : dbGetUserRole host moment world.db user.userId = (role : Int)
  found : ∃ name, dbGetUser host moment world.db ⟨user.userId, 0, .unset⟩ =
    (.ok, ⟨user.userId, role, name⟩)
  /-- The user can authenticate. -/
  answered : Authenticates host.bcrypt user constr →
    (actionEvaluate host cfg moment world (.motd constr)).1 = .ok ⟨.action .motd, false, .zero⟩
  /-- Whoever asks is told who the user is. -/
  whois : ∀ asking caller,
    dbVerifyUserConstr host cfg moment world.db .indeterminate asking = .ok (.ok, caller) →
    ∃ name, (actionEvaluate host cfg moment world (.whois asking user.userId)).1 =
      .ok ⟨.action .whois, false, .whois ⟨user.userId, role, name⟩⟩
  /-- Whoever writes to the user gets to the insertion. -/
  destination : ∀ asking caller content,
    dbVerifyUserConstr host cfg moment world.db .indeterminate asking = .ok (.ok, caller) →
    content.len ≤ cfg.maxMsgLength →
    SendProceeds host cfg moment world asking user.userId content caller role

/-- **The user is no administrator, and the credentials lead to the user's row.** -/
structure Readable (host : Host) (cfg : Cfg) (db : Db) (user : UserRow) (role : Nat)
    (constr : Constr) : Prop where
  notAdmin : role ≠ roleAdmin
  /-- A user without a password is refused. -/
  hasPassword : Authenticates host.bcrypt user constr → constr.password ≠ none
  /-- Root's check comes first. -/
  notRoot : Authenticates host.bcrypt user constr → constr.apiKey = cfg.rootApiKey →
    cfg.Loaded host.bcrypt ∧ ¬ RootAuthenticates host.bcrypt cfg constr
  /-- The first row with the key is read. -/
  first : Authenticates host.bcrypt user constr →
    rowWith UserRow.apiKey constr.apiKey db.1.users = some user

/-! ### The view `"user"` -/

section

variable {tables : Tables} {user : UserRow} {role : Nat}

/-- **The role in the view**: that of the table, but for an administrator. -/
theorem viewRole_of_only (only : OnlyIn tables user.userId role) :
    (tables.userViewRow user).role = some (if role = roleAdmin then 0 else role) := by
  obtain ⟨has, only⟩ := only
  have inAdmins : role ≠ roleAdmin → rowWith AdminRow.userId user.userId tables.admins = none :=
    fun notAdmin => rowWith_eq_none_iff.mpr fun row member same =>
      notAdmin (only _ (.admin row member same)).symm
  have inMembers : role ≠ roleMember →
      rowWith MemberRow.userId user.userId tables.members = none :=
    fun notMember => rowWith_eq_none_iff.mpr fun row member same =>
      notMember (only _ (.member row member same)).symm
  have found : ∀ {ρ : Type} {key : ρ → Int} {rows : List ρ} {row : ρ}, row ∈ rows →
      key row = user.userId → (rowWith key user.userId rows).isSome = true := by
    intro ρ key rows row member same
    rw [Option.isSome_iff_ne_none]
    exact fun absent => rowWith_eq_none_iff.mp absent row member same
  cases has with
  | admin row member same =>
    simp only [Tables.userViewRow, found member same, if_true]
  | member row member same =>
    simp only [Tables.userViewRow, inAdmins (by decide), found member same, if_true]
    rfl
  | pro row member same =>
    simp only [Tables.userViewRow, inAdmins (by decide), inMembers (by decide), found member same,
      if_true]
    rfl

/-- The role of a table is one of the three. -/
theorem valid_of_only (only : OnlyIn tables user.userId role) :
    role = roleAdmin ∨ role = roleMember ∨ role = rolePro := by
  cases only.has with
  | admin => exact Or.inl rfl
  | member => exact Or.inr (Or.inl rfl)
  | pro => exact Or.inr (Or.inr rfl)

end

/-! ### The readers -/

section

variable {host : Host} {cfg : Cfg} {moment : Moment} {world : World} {user : UserRow} {role : Nat}
  {constr : Constr}

/-- **Credentials that lead to a user's row are accepted.** -/
theorem verified_of_readable (executed : moment.up .verifyUserConstr = true)
    (only : OnlyIn world.db.1 user.userId role)
    (readable : Readable host cfg world.db user role constr)
    (authenticates : Authenticates host.bcrypt user constr) (outUser : UserIdentity) :
    dbVerifyUserConstr host cfg moment world.db outUser constr = .ok (.ok, ⟨role, user.userId⟩) := by
  have given := readable.hasPassword authenticates
  have returns : ¬ (constr.apiKey = cfg.rootApiKey ∧
      (constr.password = none ∨ ¬ cfg.Loaded host.bcrypt)) := by
    rintro ⟨same, missing | notLoaded⟩
    · exact given missing
    · exact notLoaded (readable.notRoot authenticates same).1
  have notAccepted : ¬ RootAccepted host.bcrypt cfg constr := fun accepted =>
    (readable.notRoot authenticates accepted.1).2 accepted.2
  have isRole : pqRecvRole host (world.db.1.userViewRow user).role = role := by
    rw [viewRole_of_only only, if_neg readable.notAdmin]
    rfl
  have isValid : validateDbRole (pqRecvRole host (world.db.1.userViewRow user).role) = true := by
    rw [isRole]
    exact (validateDbRole_iff role).mpr (valid_of_only only)
  rw [dbVerifyUserConstr_of_lookup returns notAccepted, lookupUser_eq, if_pos executed,
    readable.first authenticates]
  show dbVerifyRow host outUser constr (world.db.1.userViewRow user) = _
  rw [dbVerifyRow_of_authenticates given authenticates isValid, isRole]

/-- **Whoever is accepted as a user who is no administrator** gave a password, not root's, and their
row was read first. -/
theorem readable_of_verified (member : user ∈ world.db.1.users) (notAdmin : role ≠ roleAdmin)
    (verified : dbVerifyUserConstr host cfg moment world.db .indeterminate constr =
      .ok (.ok, ⟨role, user.userId⟩)) :
    constr.password ≠ none ∧
      (constr.apiKey = cfg.rootApiKey →
        cfg.Loaded host.bcrypt ∧ ¬ RootAuthenticates host.bcrypt cfg constr) ∧
      rowWith UserRow.apiKey constr.apiKey world.db.1.users = some user := by
  have loaded : constr.apiKey = cfg.rootApiKey → cfg.Loaded host.bcrypt := by
    intro same
    by_contra notLoaded
    have stops : VerificationStops host cfg moment world.db constr := Or.inl ⟨same, Or.inr notLoaded⟩
    obtain ⟨fault, stopped⟩ := (dbVerifyUserConstr_stops_iff .indeterminate).mpr stops
    cases verified.symm.trans stopped
  rcases verified_cases verified with ⟨_, isRoot⟩ | ⟨notRoot, given, row, selected, _, isUser⟩
  · exact absurd (congrArg UserIdentity.role isRoot) notAdmin
  · rw [selectByApiKey_head?] at selected
    obtain ⟨other, isFirst, rfl⟩ := Option.map_eq_some_iff.mp selected
    have sameId : user.userId = other.userId := congrArg UserIdentity.id isUser
    have same : user = other :=
      world.db.2.userPkey.eq_of_key member (mem_of_rowWith isFirst) sameId
    rw [← same] at isFirst
    exact ⟨given, fun key => ⟨loaded key, fun isRoot => notRoot ⟨key, isRoot⟩⟩, isFirst⟩

/-- **The readers agree with the tables exactly for whoever is no administrator**, given credentials
that lead to the user's row. -/
theorem readers_agree_iff (up : ∀ query, moment.up query = true)
    (member : user ∈ world.db.1.users) (only : OnlyIn world.db.1 user.userId role) :
    ReadersAgree host cfg moment world user role constr ↔
      Readable host cfg world.db user role constr := by
  have inView : world.db.1.userViewRow user ∈ world.db.1.userView := List.mem_map_of_mem member
  have viewRole := viewRole_of_only only
  have roleRead := dbGetUserRole_of_row host (up .getUserRole) inView
  constructor
  · intro agree
    have notAdmin : role ≠ roleAdmin := by
      intro isAdmin
      have zero : pqRecvRole host (world.db.1.userViewRow user).role = 0 := by
        rw [viewRole, if_pos isAdmin]
        rfl
      rw [zero] at roleRead
      have same := roleRead.symm.trans agree.looked
      rw [isAdmin] at same
      exact absurd same (by decide)
    have reads := fun authenticates => readable_of_verified member notAdmin
      (agree.verified authenticates .indeterminate)
    exact ⟨notAdmin, fun authenticates => (reads authenticates).1,
      fun authenticates => (reads authenticates).2.1, fun authenticates => (reads authenticates).2.2⟩
  · intro readable
    have isRole : pqRecvRole host (world.db.1.userViewRow user).role = role := by
      rw [viewRole, if_neg readable.notAdmin]
      rfl
    have isValid : validateDbRole role = true := (validateDbRole_iff role).mpr (valid_of_only only)
    have verified := verified_of_readable (up .verifyUserConstr) only readable
    have found : ∃ name, dbGetUser host moment world.db ⟨user.userId, 0, .unset⟩ =
        (.ok, ⟨user.userId, role, name⟩) := by
      rcases dbGetUser_of_row host (up .getUser) inView with ⟨_, name, isFound⟩ | ⟨invalid, _⟩
      · rw [isRole] at isFound
        exact ⟨name, isFound⟩
      · rw [isRole, isValid] at invalid
        cases invalid
    have roleIs : dbGetUserRole host moment world.db user.userId = (role : Int) := by
      rw [isRole, if_pos isValid] at roleRead
      exact roleRead
    refine ⟨verified, roleIs, found, ?_, ?_, ?_⟩
    · intro authenticates
      rw [evaluation_of_verified host cfg moment world _ rfl rfl rfl
        (verified authenticates .indeterminate)]
      rfl
    · intro asking caller isCaller
      obtain ⟨name, isFound⟩ := found
      refine ⟨name, ?_⟩
      rw [evaluation_of_verified host cfg moment world _ rfl rfl rfl isCaller]
      show (evaluateWhois host moment world _ user.userId).1 = _
      rw [evaluateWhois, isFound]
      rfl
    · exact fun asking caller content isCaller fits =>
        ⟨isCaller, roleIs, valid_of_only only, fits⟩

end

/-- The first test member is read as a member. -/
theorem member1_read :
    ReadersAgree testHost testCfg (allUp 0) testWorld ⟨1003, apiKeyMember1, some member1Hash⟩
      roleMember constrMember1 := by
  have only : OnlyIn testWorld.db.1 1003 roleMember := by
    refine ⟨.member ⟨1003, clit "member1", none⟩ (by decide) rfl, ?_⟩
    intro other inTable
    cases inTable with
    | admin row member same => cases member
    | member row member same => rfl
    | pro row member same =>
      have others : ∀ row ∈ testWorld.db.1.pros, row.userId ≠ 1003 := by decide
      exact absurd same (others row member)
  exact (readers_agree_iff (fun _ => rfl) (by decide) only).mpr
    { notAdmin := by decide
      hasPassword := fun _ => by decide
      notRoot := fun _ same => absurd same (by decide)
      first := fun _ => by decide }

/-- An administrator, and nobody else. -/
def oneAdmin : World :=
  { db := ⟨{ users := [⟨1005, apiKeyMember1, some member1Hash⟩]
             members := []
             pros := []
             admins := [⟨1005⟩]
             msgs := []
             singleBlocks := [] }, by decide⟩
    lastMsgId := 0 }

/-- The administrator gives their password, and no reader knows their role. -/
theorem admin_not_read :
    Authenticates testHost.bcrypt ⟨1005, apiKeyMember1, some member1Hash⟩ constrMember1 ∧
      InTable oneAdmin.db.1 1005 roleAdmin ∧
      ¬ ReadersAgree testHost testCfg (allUp 0) oneAdmin ⟨1005, apiKeyMember1, some member1Hash⟩
        roleAdmin constrMember1 := by
  refine ⟨by decide, .admin ⟨1005⟩ (by decide) rfl, fun agree => ?_⟩
  exact absurd agree.looked (by decide)

end Tchatator
