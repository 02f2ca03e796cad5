import Sitewright.Json.Display
import Sitewright.Tool.Call

namespace Sitewright

/-- The calls that make a site, and what they were compiled from: the time of the source, the
assets, and the model that was asked. -/
structure Plan where
  calls : List ToolCall
  fingerprint : Int
  signature : String
  createdAt : String := ""
  model : Json := .str ""
  apiBase : Json := .str ""
  deriving Repr, Inhabited

namespace Plan

/-- What keeps a value from being a plan. -/
inductive Malformed where
  | notObject
  | calls
  | fingerprint
  | signature
  deriving Repr, DecidableEq

def Malformed.message : Malformed → String
  | notObject => "plan must be a JSON object"
  | calls => "toolCalls must be a list of objects"
  | fingerprint => "sourceFingerprint must be an integer"
  | signature => "assetsSignature must be a string"

/-- A plan holds while the source is not newer and the assets are the same. -/
def reusable (plan : Plan) (fingerprint : Int) (signature : String) : Bool :=
  decide (fingerprint ≤ plan.fingerprint) && plan.signature == signature

def toJson (plan : Plan) : Json :=
  .obj
    [("toolCalls", .arr (plan.calls.map ToolCall.toJson)),
      ("sourceFingerprint", .int plan.fingerprint),
      ("assetsSignature", .str plan.signature),
      ("createdAt", .str plan.createdAt),
      ("model", plan.model),
      ("apiBase", plan.apiBase)]

def callsField (fields : Fields) : Except Malformed (List ToolCall) :=
  match Json.field fields "toolCalls" with
  | .arr items =>
    match items.mapM Json.fields? with
    | some calls => .ok (calls.map ToolCall.ofFields)
    | none => .error .calls
  | _ => .error .calls

def fingerprintField (fields : Fields) : Except Malformed Int :=
  match Json.field fields "sourceFingerprint" with
  | .int n => .ok n
  | _ => .error .fingerprint

def signatureField (fields : Fields) : Except Malformed String :=
  match Json.field fields "assetsSignature" with
  | .str s => .ok s
  | _ => .error .signature

/-- Reads a plan; what only describes it may be anything. -/
def ofJson : Json → Except Malformed Plan
  | .obj fields => do
    let calls ← callsField fields
    let fingerprint ← fingerprintField fields
    let signature ← signatureField fields
    return {
      calls, fingerprint, signature
      createdAt := (Json.field fields "createdAt").displayGiven
      model := .str (Json.field fields "model").displayGiven
      apiBase := .str (Json.field fields "apiBase").displayGiven }
  | _ => .error .notObject

end Plan

end Sitewright
