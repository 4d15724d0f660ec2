/-
**Whom a user key names** (`get_user_id`).

* `Denotes` — a number names the user of that identifier; a text without an `@` names the member
  who has it as a user name, or the only professional who has it as a business name;
* `KeyDown` — a statement that a text needs is not executed, which for an e-mail none ever is;
* **`getUserId_outcome`** — a lookup fails, returns the user who is named, or reports that nobody is;
* `getUserId_error_iff`, `getUserId_handled_iff` — identifiers share their integer with the error
  statuses, so that a user `0` is nobody and a user `-1` a failure.
-/

import Tchatator.Proof.Forms

namespace Tchatator

/-! ### Names -/

/-- **A name is a user's**: a member's, or else the only professional's who has it. -/
inductive Named (db : Db) (name : CString) : Int → Prop
  | member (row : MemberRow) : row ∈ db.1.memberView → row.userName = name →
      Named db name row.userId
  | pro (row : ProRow) : (∀ other ∈ db.1.memberView, other.userName ≠ name) →
      (db.1.proView.filter fun other => other.businessName = name) = [row] →
      Named db name row.userId

/-- **A key names a user.** A number is kept on 32 bits. -/
def Denotes (db : Db) : Json → Int → Prop
  | .int value, userId => 0 < value ∧ userId = clampInt32 value
  | .string text, userId =>
      text.length ≤ max emailLength pseudoLength ∧ strchr (cstring text) 64 = false ∧
        Named db (cstring text) userId
  | _, _ => False

/-- **A statement that a key needs is not executed.** -/
def KeyDown (moment : Moment) (db : Db) : Json → Prop
  | .string text =>
      text.length ≤ max emailLength pseudoLength ∧
        (strchr (cstring text) 64 = true ∨ moment.up .memberByName = false ∨
          ((∀ row ∈ db.1.memberView, row.userName ≠ cstring text) ∧ moment.up .proByName = false))
  | _ => False

section

variable {moment : Moment} {db : Db} {name : CString}

theorem filter_userName {name : CString} :
    (db.1.memberView.filter fun row => row.userName = name) = [] ↔
      ∀ row ∈ db.1.memberView, row.userName ≠ name := by
  simp [List.filter_eq_nil_iff]

/-- User names are unique. -/
theorem memberView_unique (db : Db) : Keyed.Unique MemberRow.userName db.1.memberView :=
  db.2.memberUserName.sublist (List.filter_sublist.map MemberRow.userName)

/-- **A name is at most one user's.** -/
theorem Named.unique {userId other : Int} (first : Named db name userId)
    (second : Named db name other) : userId = other := by
  cases first with
  | member row member isName =>
    cases second with
    | member row' member' isName' =>
      exact congrArg MemberRow.userId
        ((memberView_unique db).eq_of_key member member' (isName.trans isName'.symm))
    | pro row' noMember _ => exact absurd isName (noMember row member)
  | pro row noMember only =>
    cases second with
    | member row' member' isName' => exact absurd isName' (noMember row' member')
    | pro row' _ only' =>
      have same : [row] = [row'] := only.symm.trans only'
      rw [List.singleton_inj] at same
      rw [same]

/-- **The outcomes of a lookup by name**: a failure, the user whose name it is, or nobody. -/
theorem dbGetUserIdByName_outcome (moment : Moment) (db : Db) (name : CString) :
    ((moment.up .memberByName = false ∨
        ((∀ row ∈ db.1.memberView, row.userName ≠ name) ∧ moment.up .proByName = false)) ∧
      dbGetUserIdByName moment db name = Errstatus.handled.code) ∨
    (¬ (moment.up .memberByName = false ∨
        ((∀ row ∈ db.1.memberView, row.userName ≠ name) ∧ moment.up .proByName = false)) ∧
      ((∃ userId, Named db name userId ∧ dbGetUserIdByName moment db name = userId) ∨
        ((∀ userId, ¬ Named db name userId) ∧
          dbGetUserIdByName moment db name = Errstatus.error.code))) := by
  unfold dbGetUserIdByName
  by_cases first : moment.up .memberByName = true
  · rw [if_pos first]
    cases members : db.1.memberView.filter fun row => row.userName = name with
    | cons row rest =>
      have found : row ∈ db.1.memberView.filter fun row => row.userName = name := by
        rw [members]
        exact List.mem_cons_self
      obtain ⟨member, isName⟩ := List.mem_filter.mp found
      refine Or.inr ⟨?_, Or.inl ⟨row.userId, .member row member (by simpa using isName), rfl⟩⟩
      rintro (down | ⟨noMember, _⟩)
      · cases down.symm.trans first
      · exact noMember row member (by simpa using isName)
    | nil =>
      have noMember := filter_userName.mp members
      by_cases second : moment.up .proByName = true
      · have answered : ¬ (moment.up .memberByName = false ∨
            ((∀ row ∈ db.1.memberView, row.userName ≠ name) ∧ moment.up .proByName = false)) := by
          rintro (down | ⟨_, down⟩)
          · cases down.symm.trans first
          · cases down.symm.trans second
        refine Or.inr ⟨answered, ?_⟩
        dsimp only
        rw [if_pos second]
        split
        · rename_i row only
          exact Or.inl ⟨row.userId, .pro row noMember only, rfl⟩
        · rename_i notOne
          refine Or.inr ⟨fun userId named => ?_, rfl⟩
          cases named with
          | member row member isName => exact noMember row member isName
          | pro row _ only => exact notOne row only
      · refine Or.inl ⟨Or.inr ⟨noMember, by simpa using second⟩, ?_⟩
        dsimp only
        rw [if_neg second]
  · exact Or.inl ⟨Or.inl (by simpa using first), if_neg first⟩

/-! ### Keys -/

/-- **A key names at most one user.** -/
theorem Denotes.unique {joUser : Json} {userId other : Int} (first : Denotes db joUser userId)
    (second : Denotes db joUser other) : userId = other := by
  cases joUser with
  | int value => exact first.2.trans second.2.symm
  | string text => exact first.2.2.unique second.2.2
  | _ => exact first.elim

/-- A key that names somebody can name a user. -/
theorem Denotes.userKey {joUser : Json} {userId : Int} (denotes : Denotes db joUser userId) :
    UserKey joUser := by
  cases joUser with
  | int value => exact denotes.1
  | string text => exact denotes.1
  | _ => exact denotes.elim

/-- **The outcomes of a lookup**: a failure, the user who is named, or nobody. -/
theorem getUserId_outcome (moment : Moment) (db : Db) (joUser : Json) :
    (KeyDown moment db joUser ∧ getUserId moment db joUser = Errstatus.handled.code) ∨
    (¬ KeyDown moment db joUser ∧
      ((∃ userId, Denotes db joUser userId ∧ getUserId moment db joUser = userId) ∨
        ((∀ userId, ¬ Denotes db joUser userId) ∧
          getUserId moment db joUser = Errstatus.error.code))) := by
  cases joUser with
  | int value =>
    refine Or.inr ⟨id, ?_⟩
    by_cases positive : 0 < value
    · exact Or.inl ⟨_, ⟨positive, rfl⟩, getUserId_of_positive moment db positive⟩
    · have notKey : ¬ UserKey (.int value) := positive
      exact Or.inr ⟨fun _ denotes => positive denotes.1, getUserId_of_not_userKey moment db notKey⟩
  | string text =>
    by_cases short : text.length ≤ max emailLength pseudoLength
    · have notLong := Nat.not_lt.mpr short
      simp only [getUserId, if_neg notLong, KeyDown, Denotes, short, true_and]
      by_cases isEmail : strchr (cstring text) 64 = true
      · exact Or.inl ⟨Or.inl isEmail, if_pos isEmail⟩
      · have isName : strchr (cstring text) 64 = false := by simpa using isEmail
        simp only [isName, true_and]
        simpa using dbGetUserIdByName_outcome moment db (cstring text)
    · have notKey : ¬ UserKey (.string text) := short
      exact Or.inr ⟨fun down => short down.1, Or.inr ⟨fun _ denotes => short denotes.1,
        getUserId_of_not_userKey moment db notKey⟩⟩
  | _ => exact Or.inr ⟨id, Or.inr ⟨fun _ => id, rfl⟩⟩

/-- **A lookup reports nobody** when the key names nobody, and when it names a user `0`. -/
theorem getUserId_error_iff {joUser : Json} :
    getUserId moment db joUser = Errstatus.error.code ↔
      ¬ KeyDown moment db joUser ∧ ∀ userId, Denotes db joUser userId → userId = 0 := by
  rcases getUserId_outcome moment db joUser with
    ⟨down, failed⟩ | ⟨answered, ⟨userId, denotes, returned⟩ | ⟨nobody, reported⟩⟩
  · rw [failed]
    exact iff_of_false (by decide) fun reported => reported.1 down
  · rw [returned, and_iff_right answered]
    constructor
    · intro isZero other alsoDenotes
      rw [← denotes.unique alsoDenotes]
      exact isZero
    · intro zero
      exact zero userId denotes
  · exact iff_of_true reported ⟨answered, fun userId denotes => absurd denotes (nobody userId)⟩

/-- **A lookup fails** when a statement is not executed, and when the key names a user `-1`. -/
theorem getUserId_handled_iff {joUser : Json} :
    getUserId moment db joUser = Errstatus.handled.code ↔
      KeyDown moment db joUser ∨ Denotes db joUser (-1) := by
  rcases getUserId_outcome moment db joUser with
    ⟨down, failed⟩ | ⟨answered, ⟨userId, denotes, returned⟩ | ⟨nobody, reported⟩⟩
  · exact iff_of_true failed (Or.inl down)
  · rw [returned, or_iff_right answered]
    constructor
    · intro isStatus
      have minusOne : userId = -1 := isStatus
      rw [← minusOne]
      exact denotes
    · exact fun minusOne => denotes.unique minusOne
  · rw [reported, or_iff_right answered]
    exact iff_of_false (by decide) (nobody (-1))

end

end Tchatator
