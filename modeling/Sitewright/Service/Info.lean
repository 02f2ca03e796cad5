import Sitewright.Service.Validation

namespace Sitewright

/-- How the last attempt to build went. -/
inductive BuildState where
  | done (status : BuildStatus)
  | failed
  deriving Repr, DecidableEq

def BuildState.label : BuildState → String
  | done status => status.label
  | failed => "failed"

/-- What a service tells of the site that it serves and of the last attempt to build. -/
structure BuildInfo where
  success : Bool
  state : BuildState
  routes : List String := []
  calls : Nat := 0
  skipped : List Skipped := []
  model : Option String := none
  createdAt : Option String := none
  builtAt : Option Moment := none
  error : Option String
  deriving Repr, DecidableEq

def Json.textOrNull (text : Option String) : Json := (text.map .str).getD .null

def Skipped.toJson (s : Skipped) : Json :=
  .obj [("index", .int s.index), ("name", .str s.name), ("reason", .str s.reason)]

def BuildInfo.toJson (info : BuildInfo) : Json :=
  .obj
    [("success", .bool info.success),
      ("state", .str info.state.label),
      ("routes", .arr (info.routes.map .str)),
      ("tool_call_count", .int info.calls),
      ("skipped_calls", .arr (info.skipped.map Skipped.toJson)),
      ("model", .textOrNull info.model),
      ("plan_created_at", .textOrNull info.createdAt),
      ("built_at", .bool info.builtAt.isSome),
      ("error", .textOrNull info.error)]

/-- Checks the texts of a call that was not carried out. -/
def Skipped.check (s : Skipped) : Except ValidationError Unit :=
  Validation.check "SkippedCallInfo" [("name", .str s.name), ("reason", .str s.reason)]

/-- The texts of a list, each under its place in it. -/
def Validation.numbered (name : String) (texts : List String) : List (String × Json) :=
  texts.zipIdx.map fun entry => (s!"{name}.{entry.2}", .str entry.1)

namespace Service

/-- The texts that tell of a build, under their names. What is empty is not given. -/
def texts (service : Service) (result : BuildResult) : List (String × Json) :=
  let { model, createdAt, .. } := result.plan
  Validation.numbered "routes" result.routes.paths ++
    (if model.truthy then [("model", model)] else []) ++
    (if createdAt = "" then [] else [("plan_created_at", .str createdAt)]) ++
    service.lastError.toList.map fun said => ("error", .str said)

def info (service : Service) : Except ValidationError BuildInfo := do
  match service.lastResult with
  | none =>
    Validation.check "BuildResponse"
      (service.lastError.toList.map fun said => ("error", .str said))
    return { success := false, state := .failed, error := service.lastError }
  | some result =>
    result.skipped.forM Skipped.check
    Validation.check "BuildResponse" (service.texts result)
    return {
      success := service.lastError.isNone
      state := if service.lastError.isNone then .done result.status else .failed
      routes := result.routes.paths
      calls := result.plan.calls.length
      skipped := result.skipped
      model := if result.plan.model.truthy then result.plan.model.text? else none
      createdAt := if result.plan.createdAt = "" then none else some result.plan.createdAt
      builtAt := service.lastBuiltAt
      error := service.lastError }

end Service

end Sitewright
