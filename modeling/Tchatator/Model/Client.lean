/-
**The client** (`client.c`).

Each command of the menu reads what it needs from the terminal into a buffer and sends one JSON
object. `menuRequest` is the `switch` on the user's choice, as far as what is sent goes: entry 4 reads
a number and sends nothing, entries 11 and 12 call `block` and `unblock`. Every request carries the
token of the connection, where it carries anything that identifies the user.
-/

import Tchatator.Model.ActionJson

namespace Tchatator

/-- What `fgets(buf, size, stdin)` leaves in the buffer of a typed line, cut by
`buf[strcspn(buf, "\n")] = 0`. -/
def fgetsLine (size : Nat) (line : Bytes) : CString :=
  cstring ((line.take (size - 1)).takeWhile (· ≠ 10))

/-- `json_object_new_string`. -/
def jsonObjectNewString (text : CString) : Json := .string text.1

/-! ### Requests -/

/-- The requests whose token is in `with`. -/
def requestWithToken (name : String) (token : Int) (args : List (CString × Json)) : Json :=
  .object [member "do" (.string (lit name)),
    member "with" (.object (member "token" (.int token) :: args))]

/-- `login`. -/
def login (apiKey password : CString) : Json :=
  .object [member "do" (.string (lit "login")),
    member "with" (.object [member "api_key" (jsonObjectNewString apiKey),
      member "password" (jsonObjectNewString password)])]

/-- `logout`. -/
def logout (token : Int) : Json :=
  .object [member "do" (.string (lit "logout")), member "token" (.int token)]

/-- `send_message`. -/
def sendMessage (token : Int) (dest content : CString) : Json :=
  requestWithToken "send" token
    [member "dest" (jsonObjectNewString dest), member "content" (jsonObjectNewString content)]

/-- `remove_message`: neither the token nor the identifier is in `with`. -/
def removeMessage (token msgId : Int) : Json :=
  .object [member "do" (.string (lit "rm")), member "token" (.int token),
    member "msg_id" (.int msgId)]

/-- `inbox`. -/
def clientInbox (token : Int) : Json := requestWithToken "inbox" token []

/-- `nr_inbox`. -/
def nrInbox (token : Int) : Json := requestWithToken "motd" token []

/-- `outbox`. -/
def clientOutbox (token : Int) : Json := requestWithToken "outbox" token []

/-- `block`. -/
def clientBlock (token : Int) (user : CString) : Json :=
  requestWithToken "block" token [member "user" (jsonObjectNewString user)]

/-- `unblock`. -/
def clientUnblock (token : Int) (user : CString) : Json :=
  requestWithToken "unblock" token [member "user" (jsonObjectNewString user)]

/-! ### The menu -/

/-- What the user types after choosing an entry. -/
structure Typed where
  apiKey : Bytes
  password : Bytes
  dest : Bytes
  content : Bytes
  msgId : Int

def Typed.apiKeyBuffer (typed : Typed) : CString := fgetsLine 256 typed.apiKey

def Typed.passwordBuffer (typed : Typed) : CString := fgetsLine 256 typed.password

def Typed.destBuffer (typed : Typed) : CString := fgetsLine 256 typed.dest

def Typed.contentBuffer (typed : Typed) : CString := fgetsLine 1024 typed.content

/-- `switch (choix)`: the request that is sent, if any. -/
def menuRequest (token : Int) (typed : Typed) : Int → Option Json
  | 1 => some (login typed.apiKeyBuffer typed.passwordBuffer)
  | 2 => some (logout token)
  | 3 => some (sendMessage token typed.destBuffer typed.contentBuffer)
  | 5 => some (removeMessage token typed.msgId)
  | 6 => some (clientInbox token)
  | 7 => some (nrInbox token)
  | 8 => some (clientOutbox token)
  | 9 => some (clientBlock token typed.destBuffer)
  | 10 => some (clientUnblock token typed.destBuffer)
  | 11 => some (clientBlock token typed.destBuffer)
  | 12 => some (clientUnblock token typed.destBuffer)
  | _ => none

end Tchatator
