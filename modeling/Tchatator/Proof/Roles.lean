/-
**Every user has one role** (the triggers of `member`, `pro` and `admin`).

* `classCount` — how many rows the three classes have for a user;
* `OneClassEach` — one, for every row of `_user`: no table declares it;
* `OneClassEach.insert`, `OneClassEach.delete` — an insertion of a user with a row of their class
  keeps it, since no class has a row for a user who is not there; and so does a deletion, since it
  cascades;
* **`one_class_each`** — it holds in every database that statements on the three views lead to, so the
  view `"user"` gives every user one role.
-/

import Tchatator.Library.Run
import Tchatator.Proof.ViewUpdates

namespace Tchatator

open Keyed

/-! ### One class for each user -/

/-- The rows of a user in the three classes. -/
def classCount (tables : Tables) (userId : Int) : Nat :=
  (tables.members.filter fun row => row.userId = userId).length +
    (tables.pros.filter fun row => row.userId = userId).length +
    (tables.admins.filter fun row => row.userId = userId).length

/-- **Every row of `_user` has one row in the classes.** -/
def OneClassEach (tables : Tables) : Prop :=
  ∀ user ∈ tables.users, classCount tables user.userId = 1

section

variable {tables : Tables} {userId : Int}

/-- A class has no row for a user who is not there. -/
theorem classCount_of_no_user (admissible : tables.Admissible)
    (noUser : ¬ tables.HasUser userId) : classCount tables userId = 0 := by
  have noMember : tables.members.filter (fun row => decide (row.userId = userId)) = [] := by
    rw [List.filter_eq_nil_iff]
    intro row member same
    exact noUser (of_decide_eq_true same ▸ admissible.memberFkUser row member)
  have noPro : tables.pros.filter (fun row => decide (row.userId = userId)) = [] := by
    rw [List.filter_eq_nil_iff]
    intro row member same
    exact noUser (of_decide_eq_true same ▸ admissible.proFkUser row member)
  have noAdmin : tables.admins.filter (fun row => decide (row.userId = userId)) = [] := by
    rw [List.filter_eq_nil_iff]
    intro row member same
    exact noUser (of_decide_eq_true same ▸ admissible.adminFkUser row member)
  rw [classCount, noMember, noPro, noAdmin]
  rfl

/-- **A user who comes with a row of their class.** -/
theorem OneClassEach.insert {before after : Tables} {user : UserRow} (each : OneClassEach before)
    (admissible : before.Admissible) (fresh : ¬ before.HasUser user.userId)
    (users : after.users = user :: before.users)
    (counts : ∀ userId, classCount after userId =
      classCount before userId + if user.userId = userId then 1 else 0) : OneClassEach after := by
  intro other member
  rw [users] at member
  rw [counts]
  rcases List.mem_cons.mp member with rfl | old
  · rw [classCount_of_no_user admissible fresh, if_pos rfl]
  · have different : user.userId ≠ other.userId := fun same => fresh ⟨other, old, same.symm⟩
    rw [each other old, if_neg different]

/-- A deletion leaves the classes of the other users alone. -/
theorem classCount_deleteUser (tables : Tables) {deleted userId : Int}
    (different : userId ≠ deleted) :
    classCount (tables.deleteUser deleted) userId = classCount tables userId := by
  have kept : ∀ {ρ : Type} (key : ρ → Int) (rows : List ρ),
      (rows.filter fun row => decide (key row ≠ deleted)).filter
          (fun row => decide (key row = userId)) =
        rows.filter fun row => decide (key row = userId) := by
    intro ρ key rows
    rw [List.filter_filter]
    refine List.filter_congr fun row _ => ?_
    by_cases same : key row = userId
    · simp [same, different]
    · simp [same]
  rw [classCount, classCount, Tables.deleteUser, kept MemberRow.userId, kept ProRow.userId,
    kept AdminRow.userId]

/-- **A user who leaves takes the row of their class along.** -/
theorem OneClassEach.delete (each : OneClassEach tables) (deleted : Int) :
    OneClassEach (tables.deleteUser deleted) := by
  intro user member
  obtain ⟨inTable, different⟩ := List.mem_filter.mp member
  rw [classCount_deleteUser tables (by simpa using different)]
  exact each user inTable

end

/-! ### The triggers -/

section

variable {new : Type}

/-- What `_insert_user` leaves. -/
theorem insertUser_some {db after : Db} {row inserted : NewClassRow new}
    (isInserted : insertUser db row = some (after, inserted)) :
    ∃ user : UserRow, inserted.userId = some user.userId ∧ row.apiKey = some user.apiKey ∧
      ¬ db.1.HasUser user.userId ∧ after.1 = { db.1 with users := user :: db.1.users } := by
  unfold insertUser at isInserted
  split at isInserted
  · rename_i userId apiKey _ isKey
    obtain ⟨left, committed, isPair⟩ := Option.map_eq_some_iff.mp isInserted
    cases isPair
    have isLeft := Db.eq_of_commit committed
    refine ⟨⟨userId, apiKey, row.passwordHash⟩, rfl, isKey, ?_, isLeft⟩
    rintro ⟨other, member, same⟩
    have pkey := after.2.userPkey
    rw [isLeft] at pkey
    exact (unique_cons.mp pkey).1 other member same
  · cases isInserted

/-- One row of a class is inserted for the user that a trigger is given. -/
def InsertsOne (insertClass : Db → NewClassRow new → Option Db) : Prop :=
  ∀ db row after, insertClass db row = some after → ∃ userId,
    row.userId = some userId ∧ after.1.users = db.1.users ∧ ∀ other,
      classCount after.1 other = classCount db.1 other + if userId = other then 1 else 0

theorem insertMember_insertsOne : InsertsOne insertMember := by
  intro db row after inserted
  unfold insertMember at inserted
  split at inserted
  · rename_i userId userName isId _
    have isAfter := Db.eq_of_commit inserted
    refine ⟨userId, isId, by rw [isAfter], fun other => ?_⟩
    rw [isAfter, classCount, classCount, length_filter_cons MemberRow.userId]
    have sum : ∀ own pros admins one : Nat, own + one + pros + admins = own + pros + admins + one := by
      omega
    exact sum _ _ _ _
  · cases inserted

theorem insertPro_insertsOne : InsertsOne insertPro := by
  intro db row after inserted
  unfold insertPro at inserted
  split at inserted
  · rename_i userId businessName isId _
    have isAfter := Db.eq_of_commit inserted
    refine ⟨userId, isId, by rw [isAfter], fun other => ?_⟩
    rw [isAfter, classCount, classCount, length_filter_cons ProRow.userId]
    have sum : ∀ members own admins one : Nat,
        members + (own + one) + admins = members + own + admins + one := by omega
    exact sum _ _ _ _
  · cases inserted

theorem insertAdmin_insertsOne : InsertsOne insertAdmin := by
  intro db row after inserted
  obtain ⟨userId, isId, committed⟩ := Option.bind_eq_some_iff.mp inserted
  have isAfter := Db.eq_of_commit committed
  refine ⟨userId, isId, by rw [isAfter], fun other => ?_⟩
  rw [isAfter, classCount, classCount, length_filter_cons AdminRow.userId]
  exact (Nat.add_assoc _ _ _).symm

/-- **An insertion trigger keeps one class for each user.** -/
theorem ftgInsert_oneClassEach {insertClass : Db → NewClassRow new → Option Db}
    (insertsOne : InsertsOne insertClass) {db after : Db} {row : NewClassRow new}
    (fired : ftgInsert insertClass db row = some after) (each : OneClassEach db.1) :
    OneClassEach after.1 := by
  obtain ⟨⟨withUser, inserted⟩, isInserted, ofClass⟩ := Option.bind_eq_some_iff.mp fired
  obtain ⟨user, isUser, _, fresh, isWith⟩ := insertUser_some isInserted
  obtain ⟨userId, isId, sameUsers, counts⟩ := insertsOne withUser inserted after ofClass
  cases isUser.symm.trans isId
  refine each.insert db.2 fresh (by rw [sameUsers, isWith]) fun other => ?_
  rw [counts, isWith]
  rfl

/-- **A statement on a view of users keeps one class for each user**: an insertion comes with a row
of the class, an update raises, a deletion cascades. -/
theorem step_oneClassEach {own : Type} {view : View Db (NewClassRow new) (ClassRow own)}
    {insertClass : Db → NewClassRow new → Option Db}
    (updateClass : Db → NewClassRow new → Option Db)
    (insertsOne : InsertsOne insertClass) (onInsert : view.onInsert = ftgInsert insertClass)
    (onUpdate : view.onUpdate = ftgUpdate updateClass) (onDelete : view.onDelete = ftgDelete)
    {before after : Db} {statement : ViewStatement (NewClassRow new) (ClassRow own)}
    (step : view.Step before statement after) (each : OneClassEach before.1) :
    OneClassEach after.1 := by
  have inserts : ∀ db row after, view.onInsert db row = some after →
      OneClassEach db.1 → OneClassEach after.1 := by
    rw [onInsert]
    exact fun _ _ _ fired each => ftgInsert_oneClassEach insertsOne fired each
  have updates : ∀ db rows after, view.onUpdate db rows = some after →
      OneClassEach db.1 → OneClassEach after.1 := by
    rw [onUpdate]
    rintro db ⟨old, row⟩ after fired _
    cases (ftgUpdate_raises updateClass db old row).symm.trans fired
  have deletes : ∀ db row after, view.onDelete db row = some after →
      OneClassEach db.1 → OneClassEach after.1 := by
    rw [onDelete]
    rintro db old after fired each
    cases fired
    exact each.delete old.userId
  exact step.invariant (fun db => OneClassEach db.1) inserts updates deletes each

end

/-! ### Runs of statements -/

/-- A statement on one of the three views. -/
inductive ClassStatement
  | member (statement : ViewStatement (NewClassRow NewMemberColumns) (ClassRow MemberColumns))
  | pro (statement : ViewStatement (NewClassRow (Option CString)) (ClassRow CString))
  | admin (statement : ViewStatement (NewClassRow Unit) (ClassRow Unit))

/-- One statement, atomic. -/
def ClassStep (before : Db) : ClassStatement → Db → Prop
  | .member statement, after => Views.member.Step before statement after
  | .pro statement, after => Views.pro.Step before statement after
  | .admin statement, after => Views.admin.Step before statement after

theorem classStep_oneClassEach {before after : Db} {statement : ClassStatement}
    (step : ClassStep before statement after) (each : OneClassEach before.1) :
    OneClassEach after.1 := by
  cases statement with
  | member => exact step_oneClassEach updateMember insertMember_insertsOne rfl rfl rfl step each
  | pro => exact step_oneClassEach updatePro insertPro_insertsOne rfl rfl rfl step each
  | admin =>
    exact step_oneClassEach (fun db _ => some db) insertAdmin_insertsOne rfl rfl rfl step each

/-- A user with a row in the classes has a role in the view `"user"`. -/
theorem role_of_classCount {tables : Tables} {user : UserRow}
    (one : classCount tables user.userId = 1) : (tables.userViewRow user).role ≠ none := by
  intro noRole
  have noAdmin : rowWith AdminRow.userId user.userId tables.admins = none := by
    by_contra found
    simp [Tables.userViewRow, Option.isSome_iff_ne_none.mpr found] at noRole
  have noMember : rowWith MemberRow.userId user.userId tables.members = none := by
    by_contra found
    simp [Tables.userViewRow, noAdmin, Option.isSome_iff_ne_none.mpr found] at noRole
  have noPro : rowWith ProRow.userId user.userId tables.pros = none := by
    by_contra found
    simp [Tables.userViewRow, noAdmin, noMember, Option.isSome_iff_ne_none.mpr found] at noRole
  rw [rowWith_eq_none_iff] at noAdmin noMember noPro
  have none : ∀ {ρ : Type} {key : ρ → Int} {rows : List ρ}, (∀ row ∈ rows, key row ≠ user.userId) →
      rows.filter (fun row => decide (key row = user.userId)) = [] := fun absent =>
    List.filter_eq_nil_iff.mpr fun row member same => absent row member (of_decide_eq_true same)
  rw [classCount, none noAdmin, none noMember, none noPro] at one
  cases one

/-- **Every user has one class and one role**, in every database that statements on the views
`member`, `pro` and `admin` lead to. -/
theorem one_class_each {statements : List ClassStatement} {db : Db}
    (run : Run ClassStep Db.empty statements db) :
    (∀ user ∈ db.1.users, classCount db.1 user.userId = 1) ∧
    (∀ row ∈ db.1.members, db.1.HasUser row.userId) ∧
    (∀ row ∈ db.1.pros, db.1.HasUser row.userId) ∧
    (∀ row ∈ db.1.admins, db.1.HasUser row.userId) ∧
    (∀ row ∈ db.1.userView, row.role ≠ none) ∧
    ∀ user ∈ db.1.users, ∃! role, ∃ row ∈ db.1.userView,
      row.userId = user.userId ∧ row.role = some role := by
  have each : OneClassEach db.1 :=
    (run.invariant (fun db => OneClassEach db.1)
      (fun _ _ _ step each => classStep_oneClassEach step each)
      (fun _ none => absurd none List.not_mem_nil)).1
  refine ⟨each, db.2.memberFkUser, db.2.proFkUser, db.2.adminFkUser, ?_, ?_⟩
  · intro row member
    obtain ⟨user, inTable, rfl⟩ := List.mem_map.mp member
    exact role_of_classCount (each user inTable)
  · intro user inTable
    obtain ⟨role, isRole⟩ := Option.ne_none_iff_exists'.mp (role_of_classCount (each user inTable))
    refine ⟨role, ⟨_, List.mem_map_of_mem inTable, rfl, isRole⟩, ?_⟩
    rintro other ⟨row, member, sameId, isOther⟩
    obtain ⟨again, inTableToo, rfl⟩ := List.mem_map.mp member
    have same : again = user := db.2.userPkey.eq_of_key inTableToo inTable sameId
    rw [same] at isOther
    exact Option.some.inj (isOther.symm.trans isRole)

/-- A professional and a member are inserted, then a member whose name is taken, which raises; the
professional is deleted. -/
theorem memberAlone_one_class_each :
    Run ClassStep Db.empty
      [.pro (.insert [⟨some 1001, some apiKeyPro1, none, some (clit "pro1 corp")⟩]),
        .member (.insert [⟨some 1003, some apiKeyMember1, none, ⟨some (clit "member1"), none⟩⟩]),
        .member (.insert [⟨some 1004, some apiKeyMember2, none, ⟨some (clit "member1"), none⟩⟩]),
        .pro (.delete [⟨1001, apiKeyPro1, none, clit "pro1 corp"⟩])]
      passwordlessMember ∧
    ∀ user ∈ passwordlessMember.1.users, classCount passwordlessMember.1 user.userId = 1 := by
  have run : Run ClassStep Db.empty
      [.pro (.insert [⟨some 1001, some apiKeyPro1, none, some (clit "pro1 corp")⟩]),
        .member (.insert [⟨some 1003, some apiKeyMember1, none, ⟨some (clit "member1"), none⟩⟩]),
        .member (.insert [⟨some 1004, some apiKeyMember2, none, ⟨some (clit "member1"), none⟩⟩]),
        .pro (.delete [⟨1001, apiKeyPro1, none, clit "pro1 corp"⟩])] passwordlessMember := by
    apply Run.more
    · exact ⟨trivial, rfl⟩
    apply Run.more
    · exact ⟨trivial, rfl⟩
    apply Run.more
    · exact ⟨trivial, rfl⟩
    apply Run.more
    · exact ⟨by decide, rfl⟩
    exact .done _
  exact ⟨run, (one_class_each run).1⟩

end Tchatator
