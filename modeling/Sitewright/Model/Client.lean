import Sitewright.Event
import Sitewright.Model.Chat
import Sitewright.Model.Reply

namespace Sitewright

/-- The way to a model: which requests it does not take, since there is no address in them or no way
to write them, and what comes of the others. -/
structure Endpoint where
  refusal? : ChatRequest → Option String := fun _ => none
  reply : ChatRequest → Reply

/-- What came of asking for calls, and the requests that were sent for it. -/
structure Asked (ε : Type) where
  answer : Except ε (List ToolCall)
  sent : List ChatRequest := []
  events : List Event := []

def Endpoint.check (endpoint : Endpoint) (request : ChatRequest) : Except Unsendable Unit :=
  match endpoint.refusal? request with
  | some said => .error (.refused said)
  | none => request.check

/-- Asks the model of an account over an endpoint: one request, unless it cannot be sent. The answer
is read with room for so many arrays and objects inside one another. -/
def Account.ask (account : Account) (room : Nat) (endpoint : Endpoint) (question : Question) :
    Asked ClientError :=
  let request := account.request question
  let events := [.modelAsked account.address account.model.display]
  match endpoint.check request with
  | .error e => { answer := .error (.unsendable e), events }
  | .ok () => { answer := (endpoint.reply request).calls room, sent := [request], events }

end Sitewright
