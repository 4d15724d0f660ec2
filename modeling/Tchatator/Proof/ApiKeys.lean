/-
**API keys that tell users apart** (`db_verify_user_constr`, `_insert_user`).

The lookup by key has no order and reads one row, and `tables.sql` does not declare `api_key` unique.

* `KeysDecide` — the check of a connection string does not depend on the order of the rows of
  `_user`, no two users have one key, and nobody who gives their own key and password is refused or
  taken for somebody else;
* `keysDecide_iff` — it holds exactly of a database whose keys are pairwise different;
* `classStep_distinct_iff` — a statement on the views of users keeps them so exactly when it raises,
  or inserts keys that nobody has;
* **`keys_decide_along_iff`** — the same for a run of statements and all the databases it leads to.
-/

import Tchatator.Proof.Roles
import Tchatator.Proof.Verification

namespace Tchatator

open Keyed

/-! ### Keys and rows -/

/-- The same database, with the rows of `_user` in another order. -/
def Reordered (db other : Db) : Prop :=
  ∃ users, users.Perm db.1.users ∧ other.1 = { db.1 with users := users }

/-- **Keys decide who is who**, root included. -/
structure KeysDecide (host : Host) (cfg : Cfg) (moment : Moment) (db : Db) : Prop where
  anyOrder : ∀ other, Reordered db other → ∀ outUser constr,
    dbVerifyUserConstr host cfg moment other outUser constr =
      dbVerifyUserConstr host cfg moment db outUser constr
  apart : DistinctKeys cfg db
  /-- Whoever gives their own key and password is neither refused nor taken for somebody else. -/
  own : ∀ user ∈ db.1.users, ∀ constr, constr.password ≠ none →
    Authenticates host.bcrypt user constr → ∀ outUser, ∃ status identity,
      dbVerifyUserConstr host cfg moment db outUser constr = .ok (status, identity) ∧
        status ≠ .error ∧ (status = .ok → identity.id = user.userId)

section

variable {host : Host} {cfg : Cfg} {moment : Moment} {db : Db}

/-- With distinct keys, the check does not depend on the order of the rows. -/
theorem dbVerifyUserConstr_reordered (distinct : DistinctKeys cfg db) {other : Db}
    (reordered : Reordered db other) (outUser : UserIdentity) (constr : Constr) :
    dbVerifyUserConstr host cfg moment other outUser constr =
      dbVerifyUserConstr host cfg moment db outUser constr := by
  obtain ⟨users, perm, isOther⟩ := reordered
  have sameFirst : rowWith UserRow.apiKey constr.apiKey other.1.users =
      rowWith UserRow.apiKey constr.apiKey db.1.users := by
    rw [isOther]
    exact distinct.1.rowWith_perm perm
  have sameRow : ∀ user, other.1.userViewRow user = db.1.userViewRow user := by
    intro user
    rw [isOther]
    rfl
  have sameLookup : lookupUser host moment other outUser constr =
      lookupUser host moment db outUser constr := by
    rw [lookupUser_eq, lookupUser_eq, sameFirst]
    simp only [sameRow]
  simp only [dbVerifyUserConstr]
  split
  · rfl
  · rfl
  · exact sameLookup

/-- With distinct keys, whoever gives their own key and password is judged by their own row. -/
theorem own_of_distinct (distinct : DistinctKeys cfg db) {user : UserRow}
    (member : user ∈ db.1.users) {constr : Constr} (given : constr.password ≠ none)
    (authenticates : Authenticates host.bcrypt user constr) (outUser : UserIdentity) :
    ∃ status identity,
      dbVerifyUserConstr host cfg moment db outUser constr = .ok (status, identity) ∧
        status ≠ .error ∧ (status = .ok → identity.id = user.userId) := by
  have sameKey := authenticates.1
  have notRootKey : constr.apiKey ≠ cfg.rootApiKey := by
    rw [sameKey]
    exact distinct.2 user member
  have isFirst : rowWith UserRow.apiKey constr.apiKey db.1.users = some user :=
    distinct.1.rowWith_eq_some_iff.mpr ⟨member, sameKey.symm⟩
  rw [dbVerifyUserConstr_of_lookup (fun atRoot => notRootKey atRoot.1)
    (fun accepted => notRootKey accepted.1), lookupUser_eq, isFirst]
  by_cases executed : moment.up .verifyUserConstr = true
  · rw [if_pos executed]
    show ∃ status identity,
      dbVerifyRow host outUser constr (db.1.userViewRow user) = .ok (status, identity) ∧ _
    by_cases valid : validateDbRole (pqRecvRole host (db.1.userViewRow user).role) = true
    · rw [dbVerifyRow_of_authenticates given authenticates valid]
      exact ⟨_, _, rfl, by decide, fun _ => rfl⟩
    · rw [dbVerifyRow_invalid (by simpa using valid)]
      exact ⟨_, _, rfl, by decide, fun isOk => by cases isOk⟩
  · rw [if_neg executed]
    exact ⟨_, _, rfl, by decide, fun isOk => by cases isOk⟩

/-- **Keys decide exactly when they are pairwise different.** -/
theorem keysDecide_iff (host : Host) (moment : Moment) :
    KeysDecide host cfg moment db ↔ DistinctKeys cfg db := by
  constructor
  · exact fun decide => decide.apart
  · intro distinct
    exact
      { anyOrder := fun _ reordered => dbVerifyUserConstr_reordered distinct reordered
        apart := distinct
        own := fun user member constr given authenticates =>
          own_of_distinct distinct member given authenticates }

end

/-! ### Statements -/

/-- The keys that a statement on one view inserts. -/
def ViewStatement.keys {own new : Type} :
    ViewStatement (NewClassRow new) (ClassRow own) → List Uuid4
  | .insert rows => rows.filterMap NewClassRow.apiKey
  | .update _ => []
  | .delete _ => []

/-- The keys that a statement inserts. -/
def insertedKeys : ClassStatement → List Uuid4
  | .member statement => statement.keys
  | .pro statement => statement.keys
  | .admin statement => statement.keys

/-- Keys that are pairwise different, and that nobody has. -/
structure FreshKeys (cfg : Cfg) (db : Db) (keys : List Uuid4) : Prop where
  nodup : keys.Nodup
  notRoot : ∀ key ∈ keys, key ≠ cfg.rootApiKey
  unused : ∀ key ∈ keys, ∀ user ∈ db.1.users, user.apiKey ≠ key

/-- What a statement leaves, or `none` when it raises. -/
def executeClass (db : Db) : ClassStatement → Option Db
  | .member statement => Views.member.execute db statement
  | .pro statement => Views.pro.execute db statement
  | .admin statement => Views.admin.execute db statement

/-- **A statement inserts keys that nobody has**, or it raises. -/
def InsertsFreshKeys (cfg : Cfg) (db : Db) (statement : ClassStatement) : Prop :=
  executeClass db statement = none ∨ FreshKeys cfg db (insertedKeys statement)

section

variable {cfg : Cfg} {db after : Db}

theorem freshKeys_nil (cfg : Cfg) (db : Db) : FreshKeys cfg db [] :=
  ⟨List.nodup_nil, fun _ none => absurd none List.not_mem_nil,
    fun _ none => absurd none List.not_mem_nil⟩

/-- **Keys in front of distinct ones.** -/
theorem distinctKeys_append_iff {keys : List Uuid4} (distinct : DistinctKeys cfg db)
    (isAfter : after.1.users.map UserRow.apiKey = keys.reverse ++ db.1.users.map UserRow.apiKey) :
    DistinctKeys cfg after ↔ FreshKeys cfg db keys := by
  have keyed : ∀ db : Db, DistinctKeys cfg db ↔ (db.1.users.map UserRow.apiKey).Nodup ∧
      ∀ key ∈ db.1.users.map UserRow.apiKey, key ≠ cfg.rootApiKey := by
    intro db
    rw [List.forall_mem_map]
    rfl
  obtain ⟨unique, notRoot⟩ := (keyed db).mp distinct
  rw [keyed, isAfter, List.nodup_append, List.nodup_reverse]
  constructor
  · rintro ⟨⟨nodup, _, apart⟩, others⟩
    refine ⟨nodup, fun key isKey => ?_, fun key isKey user member same => ?_⟩
    · exact others key (List.mem_append_left _ (List.mem_reverse.mpr isKey))
    · exact apart key (List.mem_reverse.mpr isKey) user.apiKey (List.mem_map_of_mem member) same.symm
  · rintro ⟨nodup, keysNotRoot, unused⟩
    refine ⟨⟨nodup, unique, fun key isKey other isOther same => ?_⟩, fun key isKey => ?_⟩
    · obtain ⟨user, member, rfl⟩ := List.mem_map.mp isOther
      exact unused key (List.mem_reverse.mp isKey) user member same.symm
    · rcases List.mem_append.mp isKey with inserted | old
      · exact keysNotRoot key (List.mem_reverse.mp inserted)
      · exact notRoot key old

end

/-! ### The triggers -/

section

variable {cfg : Cfg} {new : Type} {insertClass : Db → NewClassRow new → Option Db} {db after : Db}

/-- A row that is inserted puts its key in front. -/
theorem ftgInsert_keys (insertsOne : InsertsOne insertClass) {row : NewClassRow new}
    (fired : ftgInsert insertClass db row = some after) :
    ∃ key, row.apiKey = some key ∧
      after.1.users.map UserRow.apiKey = key :: db.1.users.map UserRow.apiKey := by
  obtain ⟨⟨withUser, inserted⟩, isInserted, ofClass⟩ := Option.bind_eq_some_iff.mp fired
  obtain ⟨user, _, isKey, _, isWith⟩ := insertUser_some isInserted
  obtain ⟨_, _, sameUsers, _⟩ := insertsOne withUser inserted after ofClass
  refine ⟨user.apiKey, isKey, ?_⟩
  rw [sameUsers, isWith, List.map_cons]

/-- **An insertion puts its keys in front**, the last one first. -/
theorem insert_keys (insertsOne : InsertsOne insertClass) {rows : List (NewClassRow new)}
    (fired : rows.foldlM (ftgInsert insertClass) db = some after) :
    after.1.users.map UserRow.apiKey =
      (rows.filterMap NewClassRow.apiKey).reverse ++ db.1.users.map UserRow.apiKey := by
  induction rows generalizing db with
  | nil =>
    cases fired
    rfl
  | cons row rest ih =>
    rw [List.foldlM_cons] at fired
    obtain ⟨next, first, later⟩ := Option.bind_eq_some_iff.mp fired
    obtain ⟨key, isKey, keys⟩ := ftgInsert_keys insertsOne first
    rw [ih later, keys, List.filterMap_cons_some isKey, List.reverse_cons, List.append_assoc]
    rfl

/-- **What a statement on one view does to the keys**: an insertion adds its own, an update raises,
and a deletion only removes rows. -/
theorem execute_distinct_iff {own : Type} {view : View Db (NewClassRow new) (ClassRow own)}
    (updateClass : Db → NewClassRow new → Option Db) (insertsOne : InsertsOne insertClass)
    (onInsert : view.onInsert = ftgInsert insertClass)
    (onUpdate : view.onUpdate = ftgUpdate updateClass) (onDelete : view.onDelete = ftgDelete)
    {statement : ViewStatement (NewClassRow new) (ClassRow own)}
    (executed : view.execute db statement = some after) (distinct : DistinctKeys cfg db) :
    DistinctKeys cfg after ↔ FreshKeys cfg db statement.keys := by
  cases statement with
  | insert rows =>
    have fired : rows.foldlM (ftgInsert insertClass) db = some after := by
      rw [← onInsert]
      exact executed
    exact distinctKeys_append_iff distinct (insert_keys insertsOne fired)
  | update rows =>
    have kept : DistinctKeys cfg after := by
      refine View.foldlM_invariant ?_ executed distinct
      rw [onUpdate]
      rintro state ⟨old, row⟩ next fired _
      cases (ftgUpdate_raises updateClass state old row).symm.trans fired
    exact iff_of_true kept (freshKeys_nil cfg db)
  | delete rows =>
    have kept : DistinctKeys cfg after := by
      refine View.foldlM_invariant ?_ executed distinct
      rw [onDelete]
      rintro state old next fired ⟨unique, notRoot⟩
      cases fired
      exact ⟨unique.sublist (List.filter_sublist.map _),
        fun user member => notRoot user (List.mem_filter.mp member).1⟩
    exact iff_of_true kept (freshKeys_nil cfg db)

/-- **A statement keeps the keys apart exactly when it inserts keys that nobody has**, or raises. -/
theorem classStep_distinct_iff {statement : ClassStatement} (step : ClassStep db statement after)
    (distinct : DistinctKeys cfg db) :
    DistinctKeys cfg after ↔ InsertsFreshKeys cfg db statement := by
  have isAfter : after = (executeClass db statement).getD db := by
    cases statement <;> exact step.2
  cases executed : executeClass db statement with
  | none =>
    rw [executed] at isAfter
    rw [isAfter]
    exact iff_of_true distinct (Or.inl executed)
  | some next =>
    rw [executed] at isAfter
    have goesOn : InsertsFreshKeys cfg db statement ↔ FreshKeys cfg db (insertedKeys statement) :=
      or_iff_right (by rw [executed]; exact Option.some_ne_none next)
    rw [isAfter, goesOn]
    cases statement with
    | member =>
      exact execute_distinct_iff updateMember insertMember_insertsOne rfl rfl rfl executed distinct
    | pro => exact execute_distinct_iff updatePro insertPro_insertsOne rfl rfl rfl executed distinct
    | admin =>
      exact execute_distinct_iff (fun db _ => some db) insertAdmin_insertsOne rfl rfl rfl executed
        distinct

end

/-! ### Runs of statements -/

/-- A statement that was executed, with the databases before and after. -/
structure Execution where
  before : Db
  statement : ClassStatement
  after : Db

/-- One step of a run. -/
def Executes (before : Db) (execution : Execution) (after : Db) : Prop :=
  execution.before = before ∧ execution.after = after ∧
    ClassStep before execution.statement after

/-- **Keys decide in every database of a run exactly when every statement inserts keys that nobody
has**, or raises. -/
theorem keys_decide_along_iff (host : Host) (cfg : Cfg) (moment : Moment)
    {executions : List Execution} {db : Db} (run : Run Executes Db.empty executions db) :
    (∀ execution ∈ executions, KeysDecide host cfg moment execution.after) ↔
      ∀ execution ∈ executions, InsertsFreshKeys cfg execution.before execution.statement := by
  simp only [keysDecide_iff]
  have start : DistinctKeys cfg Db.empty :=
    ⟨List.nodup_nil, fun _ none => absurd none List.not_mem_nil⟩
  generalize Db.empty = first at run start
  induction run with
  | done =>
    exact iff_of_true (fun _ none => absurd none List.not_mem_nil)
      fun _ none => absurd none List.not_mem_nil
  | more taken _ ih =>
    obtain ⟨rfl, rfl, step⟩ := taken
    rw [List.forall_mem_cons, List.forall_mem_cons]
    rw [← classStep_distinct_iff step start]
    exact and_congr_right ih

/-- Two test members, the second inserted with the key of the first. -/
def sharedKey : Db :=
  ⟨{ users := [⟨1004, apiKeyMember1, some member2Hash⟩, ⟨1003, apiKeyMember1, some member1Hash⟩]
     members := [⟨1004, clit "member2", none⟩, ⟨1003, clit "member1", none⟩]
     pros := []
     admins := []
     msgs := []
     singleBlocks := [] }, by decide⟩

/-- The first test member. -/
def member1Alone : Db :=
  ⟨{ users := [⟨1003, apiKeyMember1, some member1Hash⟩]
     members := [⟨1003, clit "member1", none⟩]
     pros := []
     admins := []
     msgs := []
     singleBlocks := [] }, by decide⟩

/-- The insertion of the first test member. -/
def insertMember1 : Execution :=
  ⟨Db.empty, .member (.insert
    [⟨some 1003, some apiKeyMember1, some member1Hash, ⟨some (clit "member1"), none⟩⟩]), member1Alone⟩

/-- The insertion of the second, with the key of the first. -/
def insertWithSameKey : Execution :=
  ⟨member1Alone, .member (.insert
    [⟨some 1004, some apiKeyMember1, some member2Hash, ⟨some (clit "member2"), none⟩⟩]), sharedKey⟩

/-- The two test members. -/
def bothMembers : Db :=
  ⟨{ users := [⟨1004, apiKeyMember2, some member2Hash⟩, ⟨1003, apiKeyMember1, some member1Hash⟩]
     members := [⟨1004, clit "member2", none⟩, ⟨1003, clit "member1", none⟩]
     pros := []
     admins := []
     msgs := []
     singleBlocks := [] }, by decide⟩

/-- The insertion of the second, with another key. -/
def insertMember2 : Execution :=
  ⟨member1Alone, .member (.insert
    [⟨some 1004, some apiKeyMember2, some member2Hash, ⟨some (clit "member2"), none⟩⟩]), bothMembers⟩

/-- Keys decide between two members whose keys differ. -/
theorem bothMembers_decides : KeysDecide testHost testCfg (allUp 0) bothMembers := by
  have first : Executes Db.empty insertMember1 member1Alone := ⟨rfl, rfl, trivial, rfl⟩
  have second : Executes member1Alone insertMember2 bothMembers := ⟨rfl, rfl, trivial, rfl⟩
  have fresh : ∀ execution ∈ [insertMember1, insertMember2],
      InsertsFreshKeys testCfg execution.before execution.statement := by
    rw [List.forall_mem_cons, List.forall_mem_singleton]
    exact ⟨Or.inr ⟨by decide, by decide, by decide⟩, Or.inr ⟨by decide, by decide, by decide⟩⟩
  exact (keys_decide_along_iff testHost testCfg (allUp 0) (.more first (.single second))).mpr fresh
    insertMember2 (by simp)

/-- Two members with one key: the one whose row is read first is accepted, and the other is refused,
or accepted if the rows come in the other order. -/
theorem sharedKey_decides_not :
    Run Executes Db.empty [insertMember1, insertWithSameKey] sharedKey ∧
      ¬ KeysDecide testHost testCfg (allUp 0) sharedKey ∧
      dbVerifyUserConstr testHost testCfg (allUp 0) sharedKey .indeterminate constrMember1 =
        .ok (.error, ⟨roleMember, 0⟩) ∧
      ∃ other, Reordered sharedKey other ∧
        dbVerifyUserConstr testHost testCfg (allUp 0) other .indeterminate constrMember1 =
          .ok (.ok, ⟨roleMember, 1003⟩) := by
  refine ⟨?_, fun decides => ?_, by decide, ?_⟩
  · apply Run.more
    · exact ⟨rfl, rfl, trivial, rfl⟩
    apply Run.more
    · exact ⟨rfl, rfl, trivial, rfl⟩
    exact .done _
  · exact absurd decides.apart (by decide)
  · refine ⟨⟨{ sharedKey.1 with users := sharedKey.1.users.reverse }, by decide⟩, ?_, by decide⟩
    exact ⟨_, List.reverse_perm _, rfl⟩

end Tchatator
