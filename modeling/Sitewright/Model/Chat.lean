import Sitewright.Json.Display
import Sitewright.Text.Codec
import Sitewright.Text.Blank
import Sitewright.Tool.Definition

namespace Sitewright

/-- What a build asks a model: to carry out the text of the user, with these tools. -/
structure Question where
  system : String
  user : String
  tools : List Definition
  deriving Repr, DecidableEq

/-- A model, and where and as whom it is asked. -/
structure Account where
  key : Json
  model : Json
  base : String
  deriving Repr

structure ChatMessage where
  role : String
  content : String
  deriving Repr, DecidableEq

/-- A question on its way to a model. -/
structure ChatRequest where
  url : String
  authorization : String
  model : Json
  messages : List ChatMessage
  tools : List Definition
  deriving Repr

/-- Why a request cannot be sent: whoever is to send it refuses it, its credential is not ASCII, or
the name of its model holds a number that JSON does not have. -/
inductive Unsendable where
  | refused (said : String)
  | credential (e : Text.Unencodable)
  | number
  deriving Repr, DecidableEq

def Unsendable.message : Unsendable → String
  | refused said => said
  | credential e => e.message
  | number => "Out of range float values are not JSON compliant"

namespace Account

def address (account : Account) : String := Text.withoutSlashes account.base

def url (account : Account) : String := account.address ++ "/chat/completions"

def request (account : Account) (question : Question) : ChatRequest where
  url := account.url
  authorization := s!"Bearer {account.key.display}"
  model := account.model
  messages := [⟨"system", question.system⟩, ⟨"user", question.user⟩]
  tools := question.tools

end Account

namespace ChatRequest

def method : String := "POST"

def contentType : String := "application/json"

def payload (request : ChatRequest) : Json :=
  .obj
    [("model", request.model),
      ("messages", .arr (request.messages.map fun m =>
        .obj [("role", .str m.role), ("content", .str m.content)])),
      ("tools", .arr (request.tools.map Definition.entry)),
      ("tool_choice", .str "auto"),
      ("temperature", .int 0)]

def check (request : ChatRequest) : Except Unsendable Unit :=
  match Text.Codec.ascii.unencodable? request.authorization.toList with
  | some e => .error (.credential e)
  | none => if request.model.isFinite then .ok () else .error .number

end ChatRequest

end Sitewright
