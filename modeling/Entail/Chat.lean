/-
Entail/Chat.lean

A generator that asks a language model through a chat endpoint.

The request and the reading of the reply are worked out here; a `send` function takes the request
to the model and brings back the response, or nothing if there is none.
-/
import Entail.Generator
import Entail.Json.Reader
import Entail.Prompt
import Entail.Settings
import Entail.Text.Blank

namespace Entail

namespace Chat

open Json (Reader Record)

/-! ### Requests -/

/-- A message to the endpoint, to be posted. -/
structure Request where
  url : Url
  headers : List (String × String)
  body : String

/-- What the endpoint says. -/
structure Response where
  status : Nat
  body : String

/-- The character may stand in a header. -/
def isHeaderChar (c : Char) : Bool := c == '\t' || (0x20 ≤ c.toNat && c != '\x7f')

/-! ### Replies -/

/-- The message of a choice; its text may be missing. -/
def messageRecord : Record (Option (Option String)) where
  title := "struct ChatResponseMessage"
  fields :=
    [{ name := "content"
       optional := true
       omittable := false
       seen := Option.isSome
       read := fun _ depth s => (Json.nullable Json.string depth s).map (.map some) }]

/-- The text of a message, if there is one. -/
def message : Reader (Option String) := fun depth s =>
  (messageRecord.read none depth s).map (.map Option.join)

/-- One of the choices. -/
def choiceRecord : Record (Option (Option String)) where
  title := "struct ChatChoice"
  fields :=
    [{ name := "message"
       optional := false
       seen := Option.isSome
       read := fun _ depth s => (message depth s).map (.map some) }]

/-- The text of a choice, if there is one. -/
def choice : Reader (Option String) := fun depth s =>
  (choiceRecord.read none depth s).map (.map Option.join)

/-- A whole reply. -/
def replyRecord : Record (Option (List (Option String))) where
  title := "struct ChatResponse"
  fields :=
    [{ name := "choices"
       optional := false
       seen := Option.isSome
       read := fun _ depth s => (Json.listOf choice depth s).map (.map some) }]

/-- The texts of all choices. -/
def reply : Reader (List (Option String)) := fun depth s =>
  (replyRecord.read none depth s).map (.map (·.getD []))

/-- The text of a response: that of the first choice, unless it is blank. -/
def Response.text (r : Response) : Except GeneratorError String :=
  if r.status < 200 ∨ 299 < r.status then .error (.refused r.status r.body)
  else
    match reply.run r.body with
    | .error e => .error (.illegible e)
    | .ok texts =>
      match texts.head?.join with
      | none => .error .noContent
      | some text => if Text.isBlankText text then .error .noContent else .ok text

end Chat

/-! ### The generator -/

/-- A model and the way to it. -/
structure Chat where
  endpoint : Url
  key : String
  model : String
  temperature : Json
  send : Chat.Request → Option Chat.Response

namespace Chat

/-- The model that settings name.  The key is looked up before the endpoint is worked out. -/
def ofSettings (settings : GeneratorSettings) (lookup : String → Option String)
    (send : Request → Option Response) : Except GeneratorError Chat :=
  match lookup settings.keyVariable with
  | none => .error (.noKey settings.keyVariable)
  | some key =>
    match settings.endpoint with
    | .error e => .error (.noEndpoint e)
    | .ok endpoint => .ok ⟨endpoint, key, settings.model, settings.temperatureJson, send⟩

/-- One message of a conversation. -/
def turn (role content : String) : Json :=
  .object [("role", .text role), ("content", .text content)]

/-- The body of a request with a role and a text. -/
def body (chat : Chat) (role text : String) : Json :=
  .object
    [("model", .text chat.model),
      ("messages", .list [turn "system" role, turn "user" text]),
      ("temperature", chat.temperature)]

/-- The request with a role and a text.  There is none if the key cannot stand in a header. -/
def request? (chat : Chat) (role text : String) : Option Request :=
  if chat.key.toList.all isHeaderChar then
    some
      { url := chat.endpoint
        headers :=
          [("authorization", "Bearer " ++ chat.key), ("accept", "application/json"),
            ("content-type", "application/json")]
        body := (chat.body role text).compactText }
  else none

/-- Ask the model, given a role, and wait for its text. -/
def ask (chat : Chat) (role text : String) : Except GeneratorError String :=
  match (chat.request? role text).bind chat.send with
  | none => .error .unreachable
  | some response => response.text

instance : Generator Chat where
  name := model
  sketch question feedback chat :=
    (chat.ask Prompt.sketchRole (Prompt.sketch question feedback), chat)
  answer question chat := ((chat.ask Prompt.answerRole question).map Text.trim, chat)

end Chat

end Entail
