import Sitewright.Json.Reader
import Sitewright.Model.Chat
import Sitewright.Model.Status
import Sitewright.Text.Encoding
import Sitewright.Tool.Call

namespace Sitewright

/-- What becomes of a request: it fails on its way, or it is answered. -/
inductive Reply where
  | failed (message : String)
  | response (status : Nat) (body : List UInt8)
  deriving Repr, DecidableEq

/-- Why a body is not JSON. -/
inductive BodyFault where
  | encoding (e : Text.DecodeError)
  | json (e : Json.ReadError)
  deriving Repr, DecidableEq

def BodyFault.message : BodyFault → String
  | encoding e => e.message
  | json e => e.message

/-- Why no calls can be had from a model. -/
inductive ModelError where
  | transport (message : String)
  | status (code : Nat) (body : String)
  | unreadable (code : Nat) (fault : BodyFault) (body : String)
  | notObject
  | noChoices
  | callsNotList
  deriving Repr, DecidableEq

namespace ModelError

def message : ModelError → String
  | transport message => s!"chat.completions request failed: {message}"
  | status code body => s!"chat.completions failed: {code} {Status.reason code} - {body}"
  | unreadable _ fault _ => s!"chat.completions returned invalid JSON: {fault.message}"
  | notObject => "chat.completions response is not a JSON object"
  | noChoices => "chat.completions response has no choices"
  | callsNotList => "chat.completions tool_calls is not a list"

/-- The status of an answer that is refused before it is looked into. -/
def code? : ModelError → Option Nat
  | status code _ | unreadable code _ _ => some code
  | _ => none

def body? : ModelError → Option String
  | status _ text | unreadable _ _ text => some text
  | _ => none

end ModelError

/-- Why a question to a model has no answer: the request cannot be sent, there is no use in what
came of it, the body of the answer goes too deep, or someone at hand who was asked says something
else. -/
inductive ClientError where
  | unsendable (e : Unsendable)
  | model (e : ModelError)
  | deep (e : Json.TooDeep)
  | other (said : String)
  deriving Repr, DecidableEq

def ClientError.message : ClientError → String
  | unsendable e => e.message
  | model e => e.message
  | deep e => e.message
  | other said => said

/-- The calls of a message; what is no object is passed over. -/
def ToolCall.ofMessage (message : Json) : Except ModelError (List ToolCall) :=
  let given :=
    match message with
    | .obj fields => Json.field fields "tool_calls"
    | _ => .null
  if given.truthy then
    match given with
    | .arr items => .ok ((items.filterMap Json.fields?).map ofFields)
    | _ => .error .callsNotList
  else .ok []

/-- The calls of the first choice of a response. -/
def ToolCall.ofResponse : Json → Except ModelError (List ToolCall)
  | .obj fields =>
    match Json.field fields "choices" with
    | .arr (.obj choice :: _) => ofMessage (Json.field choice "message")
    | _ => .error .noChoices
  | _ => .error .notObject

namespace Reply

def bodyText (body : List UInt8) : String := String.ofList (Text.Utf8.decodeLossy body)

/-- The value of a body, which may begin with a byte order mark. -/
def bodyJson (room : Nat) (body : List UInt8) : Except BodyFault Json :=
  match Text.Encoding.decode body with
  | .error e => .error (.encoding e)
  | .ok s => (Json.readChars room s).mapError .json

/-- The calls that a model asks for. -/
def calls (room : Nat) : Reply → Except ClientError (List ToolCall)
  | failed message => .error (.model (.transport message))
  | response status body =>
    if Status.isSuccess status then
      match bodyJson room body with
      | .error (.json (.halt (.deep e))) => .error (.deep e)
      | .error fault => .error (.model (.unreadable status fault (bodyText body)))
      | .ok v => (ToolCall.ofResponse v).mapError .model
    else .error (.model (.status status (bodyText body)))

end Reply

end Sitewright
