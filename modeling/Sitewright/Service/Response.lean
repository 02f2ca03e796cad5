import Sitewright.Service.Info

namespace Sitewright

/-- What a response carries. -/
inductive Body where
  | json (v : Json)
  | html (text : String)
  | asset (path : Path) (bytes : List UInt8)
  | invalidParameter
  deriving Repr

structure Response where
  status : Nat
  body : Body
  deriving Repr

/-- Why a request gets no response. -/
inductive RequestError where
  | build (e : BuildError)
  | untold (e : ValidationError)
  | unencodable (e : Text.Unencodable)
  | noAssets (folder : Path)
  deriving Repr

/-- What a request comes to. A request for a build may change the service and the files. -/
structure Answer where
  response : Except RequestError Response
  service : Service
  files : Files
  sent : List ChatRequest := []
  events : List Event := []

namespace Response

/-- A response that only says what is wrong. -/
def detail (status : Nat) (text : String) : Response :=
  ⟨status, .json (.obj [("detail", .str text)])⟩

def notFound : Response := detail 404 "Not Found"

def notAllowed : Response := detail 405 "Method Not Allowed"

def error (status : Nat) (code message : String) (details : Json) : Except RequestError Response :=
  match Validation.check "ErrorResponse" [("error", .str message)] with
  | .error e => .error (.untold e)
  | .ok () =>
    .ok ⟨status, .json (.obj
      [("error", .str message), ("error_code", .str code), ("details", details)])⟩

/-- A page, for which there have to be bytes. -/
def html (status : Nat) (text : String) : Except RequestError Response :=
  match Text.Codec.utf8.unencodable? text.toList with
  | some e => .error (.unencodable e)
  | none => .ok ⟨status, .html text⟩

/-- The response to a build that failed. Only what a person can mend has one. -/
def ofBuildError (e : BuildError) : Except RequestError Response :=
  match e with
  | .missingCredential => error 503 "MISSING_CREDENTIAL" e.message .null
  | .client (.model cause) =>
    let code : Json := (cause.code?.map fun n => Json.int n).getD .null
    error 502 "UPSTREAM_ERROR" e.message (.obj [("status_code", code)])
  | .source _ => error 500 "SOURCE_UNREADABLE" e.message .null
  | _ => .error (.build e)

end Response

end Sitewright
