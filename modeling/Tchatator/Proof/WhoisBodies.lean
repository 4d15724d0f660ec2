/-
**What a `whois` response says of the user** (`response_to_json`, `db_get_user`).

* `treesOf_eq_none`, `not_isTree_of_self` — a node among whose members is the node itself is no finite
  tree: the induction is on the depth;
* `whoisNodes_shape` — the body's node holds the identifier and, where json-c makes a cycle, itself;
* `whoisBody_refused_iff`, `not_whoisBody_cycle` — the body is the identifier alone, or no tree;
* `whoisBody_whoisObject` — where json-c refuses, it is the body of the encoder over trees;
* `Returnable`, `twin_returnable` — every user that `db_get_user` returns has another one with the same
  identifier;
* **`whois_never_determines`** — the body determines no user.
-/

import Tchatator.Model.TestData
import Tchatator.Model.WhoisNodes
import Tchatator.Proof.Responses

namespace Tchatator

/-! ### Trees -/

theorem treesOf_eq_none {tree : Nat → Option Json} {members : List (CString × Nat)} {key : CString}
    {node : Nat} (isMember : (key, node) ∈ members) (noTree : tree node = none) :
    treesOf tree members = none := by
  induction members with
  | nil => cases isMember
  | cons head members ih =>
    unfold treesOf
    rcases List.mem_cons.mp isMember with rfl | later
    · simp only [noTree]
    · rw [ih later]
      cases tree head.2 <;> rfl

/-- **A node that is its own member is no finite tree.** -/
theorem not_isTree_of_self {heap : NodeHeap} {node : Nat} {members : List (CString × Nat)}
    {key : CString} (isObject : heap[node]? = some (.object members))
    (isMember : (key, node) ∈ members) (jo : Json) : ¬ IsTree heap node jo := by
  have noTree : ∀ depth, treeOf heap depth node = none := by
    intro depth
    induction depth with
    | zero => rfl
    | succ depth ih =>
      unfold treeOf
      simp only [isObject, treesOf_eq_none isMember ih]
      rfl
  rintro ⟨depth, found⟩
  cases (noTree depth).symm.trans found

/-- An object whose only member is a number is one tree. -/
theorem isTree_number_iff {heap : NodeHeap} {node child : Nat} {key : CString} {value : Int}
    {jo : Json} (isObject : heap[node]? = some (.object [(key, child)]))
    (isNumber : heap[child]? = some (.int value)) :
    IsTree heap node jo ↔ jo = .object [(key, .int value)] := by
  have deep : ∀ depth, treeOf heap (depth + 2) node = some (.object [(key, .int value)]) := by
    intro depth
    simp only [treeOf, isObject, treesOf, isNumber]
    rfl
  constructor
  · rintro ⟨depth, found⟩
    match depth with
    | 0 => cases found
    | 1 =>
      simp only [treeOf, isObject, treesOf] at found
      cases found
    | depth + 2 => exact Option.some.inj (found.symm.trans (deep depth))
  · rintro rfl
    exact ⟨2, deep 0⟩

/-! ### The nodes of the body -/

section Nodes

variable {self : SelfAddition} {heap : NodeHeap} {user : User}

/-- `add_key` changes the object it adds to, and no other node. -/
theorem addKey_other {o node : Nat} (other : node ≠ o) (k : String) (v : Nat) :
    (addKey self heap o k v)[node]? = heap[node]? := by
  unfold addKey
  split
  · split
    · rfl
    · exact List.getElem?_set_ne other.symm
  · rfl

theorem addKey_self {o : Nat} {members : List (CString × Nat)}
    (isObject : heap[o]? = some (.object members)) (k : String) (v : Nat) :
    (addKey self heap o k v)[o]? =
      some (.object (if o = v ∧ self = .refused then members else members ++ [(clit k, v)])) := by
  have within := (List.getElem?_eq_some_iff.mp isObject).1
  simp only [addKey, isObject]
  split
  · exact isObject
  · exact List.getElem?_set_self within

/-- A new node leaves the others alone. -/
theorem newNode_old {node : Nat} (old : node < heap.length) (new : Node) :
    (newNode heap new).2[node]? = heap[node]? := List.getElem?_append_left old

/-- The object of the role does not touch the nodes before it. -/
theorem whoisRole_old {joRole : Nat} {roleKey : String} {heap' : NodeHeap}
    (built : whoisRole self heap joRole user = .ok (roleKey, heap')) {node : Nat}
    (old : node < heap.length) (other : node ≠ joRole) : heap'[node]? = heap[node]? := by
  unfold whoisRole at built
  split at built
  · cases built
    rfl
  · split at built
    · split at built
      · cases built
        exact (addKey_other other _ _).trans (newNode_old old _)
      · cases built
    · split at built
      · split at built
        · cases built
          exact (addKey_other other _ _).trans (newNode_old old _)
        · cases built
      · cases built

/-- The nodes before the switch on the role. -/
def bodyNodes (user : User) : NodeHeap :=
  [.object [(clit "user_id", 1)], .int user.id, .object []]

theorem whoisNodes_eq (self : SelfAddition) (user : User) :
    whoisNodes self user = (whoisRole self (bodyNodes user) 2 user).map
      fun (roleKey, heap) => (0, addKey self heap 0 roleKey 0) := by
  unfold whoisNodes
  dsimp only
  split
  · rename_i fault failed
    have role : whoisRole self (bodyNodes user) 2 user = .error fault := failed
    rw [role]
    rfl
  · rename_i roleKey heap built
    have role : whoisRole self (bodyNodes user) 2 user = .ok (roleKey, heap) := built
    rw [role]
    rfl

/-- **The body's node**: the identifier, and the node itself where json-c makes a cycle. -/
theorem whoisNodes_shape {joBody : Nat}
    (built : whoisNodes self user = .ok (joBody, heap)) :
    ∃ roleKey, heap[joBody]? = some (.object ((clit "user_id", 1) ::
        if self = .refused then [] else [(clit roleKey, joBody)])) ∧
      heap[1]? = some (.int user.id) := by
  rw [whoisNodes_eq] at built
  cases role : whoisRole self (bodyNodes user) 2 user with
  | error fault =>
    rw [role] at built
    cases built
  | ok result =>
    obtain ⟨roleKey, nodes⟩ := result
    rw [role] at built
    cases built
    have isBody := whoisRole_old role (show 0 < 3 by decide) (by decide)
    have isId := whoisRole_old role (show 1 < 3 by decide) (by decide)
    refine ⟨roleKey, ?_, (addKey_other (by decide) _ _).trans isId⟩
    rw [addKey_self isBody]
    cases self <;> rfl

/-- **Where json-c refuses, the body is the identifier alone.** -/
theorem whoisBody_refused_iff {body : Json} :
    WhoisBody .refused user body ↔
      (∃ result, whoisNodes .refused user = .ok result) ∧
        body = .object [member "user_id" (.int user.id)] := by
  constructor
  · rintro ⟨joBody, heap, built, isTree⟩
    obtain ⟨_, isObject, isId⟩ := whoisNodes_shape built
    exact ⟨⟨_, built⟩, (isTree_number_iff isObject isId).mp isTree⟩
  · rintro ⟨⟨⟨joBody, heap⟩, built⟩, rfl⟩
    obtain ⟨_, isObject, isId⟩ := whoisNodes_shape built
    exact ⟨joBody, heap, built, (isTree_number_iff isObject isId).mpr rfl⟩

/-- **Where it makes a cycle, there is no body.** -/
theorem not_whoisBody_cycle (body : Json) : ¬ WhoisBody .cycle user body := by
  rintro ⟨joBody, heap, built, isTree⟩
  obtain ⟨roleKey, isObject, _⟩ := whoisNodes_shape built
  exact not_isTree_of_self isObject (List.mem_cons_of_mem _ List.mem_cons_self) body isTree

end Nodes

/-! ### Users -/

/-- The user is one that `db_get_user` can return. -/
def Returnable (host : Host) (user : User) : Prop :=
  ∃ moment db start, dbGetUser host moment db start = (.ok, user)

/-- What the role of a user comes with. -/
def User.roleData (user : User) : UserName := if user.role = roleAdmin then .unset else user.name

section Users

variable {host : Host} {user : User}

/-- A user that is returned has a role, and the name of the role. -/
theorem Returnable.cases (returnable : Returnable host user) :
    user.role = roleAdmin ∨ (user.role = roleMember ∧ ∃ userName, user.name = .member userName) ∨
      (user.role = rolePro ∧ ∃ businessName, user.name = .pro businessName) := by
  obtain ⟨moment, db, start, returned⟩ := returnable
  unfold dbGetUser at returned
  split at returned
  · split at returned
    · cases returned
    · dsimp only at returned
      split at returned
      · rename_i isAdmin
        cases returned
        exact Or.inl isAdmin
      · split at returned
        · rename_i isMember
          cases returned
          exact Or.inr (Or.inl ⟨isMember, _, rfl⟩)
        · split at returned
          · rename_i isPro
            cases returned
            exact Or.inr (Or.inr ⟨isPro, _, rfl⟩)
          · cases returned
  · cases returned

/-- The encoder builds a body for every user that is returned. -/
theorem Returnable.built (returnable : Returnable host user) (self : SelfAddition) :
    ∃ result, whoisNodes self user = .ok result := by
  rw [whoisNodes_eq]
  rcases returnable.cases with isAdmin | ⟨isMember, _, isName⟩ | ⟨isPro, _, isName⟩
  · simp only [whoisRole, if_pos isAdmin]
    exact ⟨_, rfl⟩
  · have notAdmin : user.role ≠ roleAdmin := by
      rw [isMember]
      decide
    simp only [whoisRole, if_neg notAdmin, if_pos isMember, isName]
    exact ⟨_, rfl⟩
  · have notAdmin : user.role ≠ roleAdmin := by
      rw [isPro]
      decide
    have notMember : user.role ≠ roleMember := by
      rw [isPro]
      decide
    simp only [whoisRole, if_neg notAdmin, if_neg notMember, if_pos isPro, isName]
    exact ⟨_, rfl⟩

/-- The encoder over trees gives the identifier alone. -/
theorem whoisObject_returnable (returnable : Returnable host user) :
    whoisObject user = .ok (.object [member "user_id" (.int user.id)]) := by
  rcases returnable.cases with isAdmin | ⟨isMember, _, isName⟩ | ⟨isPro, _, isName⟩
  · simp only [whoisObject, if_pos isAdmin]
  · simp [whoisObject, isMember, isName, roleMember, roleAdmin]
  · simp [whoisObject, isPro, isName, rolePro, roleMember, roleAdmin]

/-- **The encoder over nodes refines the encoder over trees**, where json-c refuses. -/
theorem whoisBody_whoisObject (returnable : Returnable host user) (body : Json) :
    WhoisBody .refused user body ↔ whoisObject user = .ok body := by
  rw [whoisBody_refused_iff, whoisObject_returnable returnable,
    and_iff_right (returnable.built .refused), Except.ok.injEq]
  exact eq_comm

/-- The tables with one member. -/
def loneMember (userId : Int) (userName : CString) : Tables :=
  { users := [⟨userId, .zero, none⟩]
    members := [⟨userId, userName, none⟩]
    pros := []
    admins := []
    msgs := []
    singleBlocks := [] }

theorem loneMember_admissible (userId : Int) (userName : CString) :
    (loneMember userId userName).Admissible := by
  constructor <;> simp [loneMember, Keyed.Unique, Tables.HasUser]

theorem member_returnable (host : Host) (userId : Int) (userName : CString) :
    Returnable host ⟨userId, roleMember, .member userName⟩ := by
  refine ⟨allUp 0, ⟨_, loneMember_admissible userId userName⟩, ⟨userId, 0, .unset⟩, ?_⟩
  simp [dbGetUser, allUp, loneMember, Tables.userView, Tables.userViewRow, Keyed.rowWith,
    pqRecvRole, pqGetvalue, roleMember, roleAdmin]

/-- A member with the identifier of a user, and with another name or role. -/
def User.twin (user : User) : User :=
  { id := user.id
    role := roleMember
    name := .member (if user.name = .member (clit "member1") then clit "member2" else clit "member1") }

theorem twin_differs (user : User) :
    ¬ (user.twin.id = user.id ∧ user.twin.role = user.role ∧
      user.twin.roleData = user.roleData) := by
  rintro ⟨_, sameRole, sameData⟩
  have notAdmin : user.role ≠ roleAdmin := by
    rw [← sameRole]
    exact show roleMember ≠ roleAdmin by decide
  rw [User.roleData, sameRole, if_neg notAdmin, User.roleData, if_neg notAdmin] at sameData
  simp only [User.twin] at sameData
  by_cases isMember1 : user.name = .member (clit "member1")
  · rw [if_pos isMember1, isMember1] at sameData
    exact absurd sameData (by decide)
  · rw [if_neg isMember1] at sameData
    exact isMember1 sameData.symm

end Users

/-! ### What the body tells -/

/-- **The body of a response determines the user**: it is a finite tree, and no user with another
identifier, role or name has it. -/
def WhoisDetermines (host : Host) (self : SelfAddition) (user : User) : Prop :=
  ∃ body, WhoisBody self user body ∧
    ∀ other, Returnable host other → WhoisBody self other body →
      other.id = user.id ∧ other.role = user.role ∧ other.roleData = user.roleData

theorem not_whoisDetermines {host : Host} (self : SelfAddition) (user : User) :
    ¬ WhoisDetermines host self user := by
  rintro ⟨body, isBody, only⟩
  cases self with
  | refused =>
    obtain ⟨_, rfl⟩ := whoisBody_refused_iff.mp isBody
    have twin := member_returnable host user.id
      (if user.name = .member (clit "member1") then clit "member2" else clit "member1")
    exact twin_differs user (only user.twin twin
      ((whoisBody_whoisObject twin _).mpr (whoisObject_returnable twin)))
  | cycle => exact not_whoisBody_cycle body isBody

/-- **The body determines no user.** Where json-c refuses to add an object to itself, two users have
one body exactly when they have one identifier; where it makes a cycle, there is no body. -/
theorem whois_never_determines (host : Host) {user : User} (returnable : Returnable host user) :
    (∀ self, ¬ WhoisDetermines host self user) ∧
    (∀ other, Returnable host other →
      ((∃ body, WhoisBody .refused user body ∧ WhoisBody .refused other body) ↔
        user.id = other.id)) ∧
    ∀ body, ¬ WhoisBody .cycle user body := by
  refine ⟨fun self => not_whoisDetermines self user, fun other otherReturnable => ?_,
    not_whoisBody_cycle⟩
  simp only [whoisBody_whoisObject returnable, whoisBody_whoisObject otherReturnable,
    whoisObject_returnable returnable, whoisObject_returnable otherReturnable, Except.ok.injEq]
  constructor
  · rintro ⟨body, rfl, same⟩
    simpa [member] using same.symm
  · intro same
    exact ⟨_, rfl, by rw [same]⟩

/-- A member of the test data. -/
def member1User : User := ⟨1003, roleMember, .member (clit "member1")⟩

theorem member1_returnable : Returnable testHost member1User :=
  ⟨allUp 0, useTestDataUsers, ⟨1003, 0, .unset⟩, by decide⟩

theorem member1_undetermined :
    (∀ self, ¬ WhoisDetermines testHost self member1User) ∧
    (∀ other, Returnable testHost other →
      ((∃ body, WhoisBody .refused member1User body ∧ WhoisBody .refused other body) ↔
        member1User.id = other.id)) ∧
    ∀ body, ¬ WhoisBody .cycle member1User body :=
  whois_never_determines testHost member1_returnable

/-- The same body is given for another user, or none at all. -/
theorem member1_not_determined :
    Returnable testHost member1User ∧ ∀ self, ¬ WhoisDetermines testHost self member1User :=
  ⟨member1_returnable, fun self => not_whoisDetermines self member1User⟩

end Tchatator
