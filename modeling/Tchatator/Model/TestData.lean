/-
**The test data** (`test_data.sql`), and a host that knows its passwords.

`useTestDataUsers` is the database that `use_test_data_users` fills, two professionals and two
members; the comments beside the hashes in the source say which password each one is of, and
`testHost` answers `bcrypt_checkpw` accordingly. The concrete cases of the development run on them.
-/

import Tchatator.Model.Db
import Tchatator.Model.Uuid

namespace Tchatator

/-- A bcrypt that recognises hashes by their prefix and length and knows the given passwords. -/
def Bcrypt.ofKnown (known : List (CString × CString)) : Bcrypt :=
  let isHash : CString → Bool := fun hash =>
    decide (hash.1.length = 60 ∧ hash.1.take 3 = lit "$2y")
  { isHash := isHash
    checkpw := fun password hash =>
      if isHash hash then (if (password, hash) ∈ known then 0 else 1) else -1
    checkpw_hash := by
      intro password hash accepted
      rw [if_pos accepted]
      split <;> decide
    checkpw_not_hash := by
      intro password hash refused
      rw [if_neg (by rw [refused]; decide)]
    empty_not_hash := by decide }

def pro1Hash : CString := clit "$2y$10$cNmRElBKaejyb6ziQ3Xu/ewVP.D9/mDgYx2rqHmH8gp6RP68Qve/O"

def pro2Hash : CString := clit "$2y$10$kRLzFBXkDjrC7d6HfnxLIuN9XimXNiSQwlEUgoY1i1CUui4LBEqya"

def member1Hash : CString := clit "$2y$10$xuJ9YQIsn1CnN5ja76YDbeY0rX8bmtMraSxeoeMRgBr20lGDpUm/2"

def member2Hash : CString := clit "$2y$10$WmZ.J1qFMf.m0mB3N7m6e.rYbkSjxH5yl/22ksIqjTth8Ar7jEgVO"

/-- A UUID literal. -/
def uuidOf (repr : String) : Uuid4 := (uuid4Parse (lit repr)).getD .zero

def apiKeyPro1 : Uuid4 := uuidOf "bb1b5a1f-a482-4858-8c6b-f4746481cffa"

def apiKeyPro2 : Uuid4 := uuidOf "52d43379-8f75-4fbd-8b06-d80a87b2c2b4"

def apiKeyMember1 : Uuid4 := uuidOf "123e4567-e89b-12d3-a456-426614174000"

def apiKeyMember2 : Uuid4 := uuidOf "9ea59c5b-bb75-4cc9-8f80-77b4ce851a0b"

/-- `use_test_data_users`, on an empty database. -/
def useTestDataUsers : Db :=
  ⟨{ users :=
      [⟨1001, apiKeyPro1, some pro1Hash⟩, ⟨1002, apiKeyPro2, some pro2Hash⟩,
        ⟨1003, apiKeyMember1, some member1Hash⟩, ⟨1004, apiKeyMember2, some member2Hash⟩]
     members := [⟨1003, clit "member1", none⟩, ⟨1004, clit "member2", none⟩]
     pros := [⟨1001, clit "pro1 corp"⟩, ⟨1002, clit "pro2 inc"⟩]
     admins := []
     msgs := []
     singleBlocks := [] }, by decide⟩

/-- A member without a password, as the schema allows. -/
def passwordlessMember : Db :=
  ⟨{ users := [⟨1003, apiKeyMember1, none⟩]
     members := [⟨1003, clit "member1", none⟩]
     pros := []
     admins := []
     msgs := []
     singleBlocks := [] }, by decide⟩

/-- The passwords in the comments of the test data. -/
def testHost : Host :=
  { bcrypt := Bcrypt.ofKnown
      [(clit "pro1_mdp", pro1Hash), (clit "pro2_mdp", pro2Hash),
        (clit "member1_mdp", member1Hash), (clit "member2_mdp", member2Hash)]
    json := { toJsonString := fun _ => cstring [], minJson := fun _ => cstring [] }
    nullField := 0
    literalAddress := fun _ => 0x555555558000 }

/-- The default configuration, with root credentials. -/
def testCfg : Cfg :=
  cfgDefaults (uuidOf "63291606-ac93-41f7-b248-f0cd25adb61f") pro1Hash

/-- The test users before any message. -/
def testWorld : World := { db := useTestDataUsers, lastMsgId := 0 }

/-- A message of the first test member to a professional. -/
def worldWithMessage : World :=
  { db := ⟨{ useTestDataUsers.1 with
      msgs := [newMsgRow 0 1 1003 1001 (clit "salut")] }, by decide⟩
    lastMsgId := 1 }

/-- A moment at which every statement is executed. -/
def allUp (now : Int) : Moment := { now := now, up := fun _ => true }

def constrPro1 : Constr := ⟨apiKeyPro1, some (clit "pro1_mdp")⟩

def constrMember1 : Constr := ⟨apiKeyMember1, some (clit "member1_mdp")⟩

def constrMember2 : Constr := ⟨apiKeyMember2, some (clit "member2_mdp")⟩

/-! ### Requests -/

/-- A member asks to write to a professional. -/
def memberToProRequest : Json :=
  .object [(clit "do", .string (lit "send")), (clit "with", .object
    [(clit "constr", .string (lit "123e4567-e89b-12d3-a456-426614174000¤member1_mdp")),
      (clit "content", .string (lit "salut")), (clit "dest", .int 1001)])]

/-- A member asks to remove the first message. -/
def removeFirstRequest : Json :=
  .object [(clit "do", .string (lit "rm")), (clit "with", .object
    [(clit "constr", .string (lit "123e4567-e89b-12d3-a456-426614174000¤member1_mdp")),
      (clit "msg_id", .int 1)])]

/-- A professional asks for the inbox. -/
def pro1InboxRequest : Json :=
  .object [(clit "do", .string (lit "inbox")), (clit "with", .object
    [(clit "constr", .string (lit "bb1b5a1f-a482-4858-8c6b-f4746481cffa¤pro1_mdp"))])]

mutual

/-- A value as `JSON_C_TO_STRING_PLAIN` prints it, if no character of it is escaped. -/
def plainText : Json → Bytes
  | .null => lit "null"
  | .boolean value => if value then lit "true" else lit "false"
  | .double text => text
  | .int value => lit (toString value)
  | .string text => lit "\"" ++ text ++ lit "\""
  | .array elements => lit "[" ++ plainElements elements ++ lit "]"
  | .object members => lit "\x7b" ++ plainMembers members ++ lit "\x7d"

def plainElements : List Json → Bytes
  | [] => []
  | [element] => plainText element
  | element :: elements => plainText element ++ lit "," ++ plainElements elements

def plainMembers : List (CString × Json) → Bytes
  | [] => []
  | [(key, value)] => lit "\"" ++ key.1 ++ lit "\":" ++ plainText value
  | (key, value) :: members =>
      lit "\"" ++ key.1 ++ lit "\":" ++ plainText value ++ lit "," ++ plainMembers members

end

/-- The host of the test data, where answers are printed. -/
def printingHost : Host :=
  { testHost with
    json :=
      { toJsonString := fun jo => cstring (plainText jo)
        minJson := fun jo => cstring (plainText jo) } }

end Tchatator
