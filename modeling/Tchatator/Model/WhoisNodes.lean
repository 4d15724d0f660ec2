/-
**The body of a `whois` response, node by node** (`response_to_json`, `action-json.c`).

A `json_object *` points to a node, and an object's members point to nodes again, so that nodes may
be shared. `add_key` may therefore be handed the object itself as the value: json-c refuses this, or
makes a cycle (`SelfAddition`). A node is a JSON value when it unfolds into a finite tree.
-/

import Tchatator.Model.ActionJson

namespace Tchatator

/-- A node of json-c. -/
inductive Node
  | int (value : Int)
  | string (text : Bytes)
  | object (members : List (CString × Nat))

/-- The nodes; a pointer is an index. -/
abbrev NodeHeap := List Node

/-- What json-c does when an object is added to itself. -/
inductive SelfAddition
  | refused
  | cycle
deriving DecidableEq

/-- `json_object_new_int` and its siblings. -/
def newNode (heap : NodeHeap) (node : Node) : Nat × NodeHeap := (heap.length, heap ++ [node])

/-- `add_key`. -/
def addKey (self : SelfAddition) (heap : NodeHeap) (o : Nat) (k : String) (v : Nat) : NodeHeap :=
  match heap[o]? with
  | some (.object members) =>
      if o = v ∧ self = .refused then heap else heap.set o (.object (members ++ [(clit k, v)]))
  | _ => heap

/-! ### Finite trees -/

/-- The members of an object as values, when each of its nodes is one. -/
def treesOf (tree : Nat → Option Json) : List (CString × Nat) → Option (List (CString × Json))
  | [] => some []
  | (key, node) :: members =>
      match tree node, treesOf tree members with
      | some jo, some rest => some ((key, jo) :: rest)
      | _, _ => none

/-- The tree of a node, down to a depth. -/
def treeOf (heap : NodeHeap) : Nat → Nat → Option Json
  | 0, _ => none
  | depth + 1, node =>
      match heap[node]? with
      | some (.int value) => some (.int value)
      | some (.string text) => some (.string text)
      | some (.object members) => (treesOf (treeOf heap depth) members).map .object
      | none => none

/-- **A node is a finite tree.** -/
def IsTree (heap : NodeHeap) (node : Nat) (jo : Json) : Prop := ∃ depth, treeOf heap depth node = some jo

/-! ### The body -/

/-- The switch on the role: the role's key, and the nodes with those of the role's object. -/
def whoisRole (self : SelfAddition) (heap : NodeHeap) (joRole : Nat) (user : User) :
    Except Fault (String × NodeHeap) :=
  if user.role = roleAdmin then .ok ("admin", heap)
  else if user.role = roleMember then
    match user.name with
    | .member userName =>
        let (jo, heap) := newNode heap (.string userName.1)
        .ok ("member", addKey self heap joRole "user_name" jo)
    | _ => .error .punnedUnion
  else if user.role = rolePro then
    match user.name with
    | .pro businessName =>
        let (jo, heap) := newNode heap (.string businessName.1)
        .ok ("pro", addKey self heap joRole "business_name" jo)
    | _ => .error .punnedUnion
  else .error .unreachable

/-- The body of a `whois` response: its node, and all nodes. The role's object is not what is added
under the role's key. -/
def whoisNodes (self : SelfAddition) (user : User) : Except Fault (Nat × NodeHeap) :=
  let (joBody, heap) := newNode [] (.object [])
  let (joId, heap) := newNode heap (.int user.id)
  let heap := addKey self heap joBody "user_id" joId
  let (joRole, heap) := newNode heap (.object [])
  match whoisRole self heap joRole user with
  | .error fault => .error fault
  | .ok (roleKey, heap) => .ok (joBody, addKey self heap joBody roleKey joBody)

/-- **A `whois` response has a body**, a finite tree. -/
def WhoisBody (self : SelfAddition) (user : User) (body : Json) : Prop :=
  ∃ joBody heap, whoisNodes self user = .ok (joBody, heap) ∧ IsTree heap joBody body

end Tchatator
