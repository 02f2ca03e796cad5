import Sitewright.Service.Framework

namespace Sitewright

def version : String := "0.1.0"

/-- What the paths of assets begin with. -/
def assetsPath : String := "/assets/"

namespace Service

def healthJson (service : Service) : Json :=
  .obj [("status", .str "ok"), ("version", .str version), ("built", .bool service.isBuilt)]

def routesResponse (service : Service) : Except RequestError Response :=
  let paths := (service.routes.map RouteTable.paths).getD []
  match Validation.check "RoutesResponse" (Validation.numbered "routes" paths) with
  | .error e => .error (.untold e)
  | .ok () =>
    .ok ⟨200, .json (.obj [("routes", .arr (paths.map .str)), ("count", .int paths.length)])⟩

def infoResponse (service : Service) : Except RequestError Response :=
  match service.info with
  | .ok info => .ok ⟨200, .json info.toJson⟩
  | .error e => .error (.untold e)

/-- The route for a path; slashes at the end of a path may be left out. -/
def findRoute (table : RouteTable) (path : String) : Option Route :=
  (table.get? path).orElse fun _ =>
    if 1 < path.length ∧ path.toList.getLast? = some '/' then
      table.get? (Text.withoutSlashes path)
    else none

def pageResponse (service : Service) (path : String) (now : Moment) :
    Except RequestError Response :=
  match service.routes with
  | none => Response.html 503 "<h1>Site not built</h1>"
  | some table =>
    match findRoute table path with
    | none => Response.html 404 "<h1>Not Found</h1>"
    | some route => Response.html 200 (route.render now)

/-- Builds the site anew; the old one is served until that has gone well. -/
def buildResponse (service : Service) (force : Bool) (now : Moment) (files : Files) : Answer :=
  let (outcome, service) := service.rebuild force now files
  let response :=
    match outcome.result with
    | .ok _ => service.infoResponse
    | .error e => Response.ofBuildError e
  { response, service, files := outcome.files, sent := outcome.sent, events := outcome.events }

/-- A line feed at the very end of a path does not count. -/
def endOf (path : String) : String :=
  if path.toList.getLast? = some '\n' then String.ofList path.toList.dropLast else path

/-- Answers a request. The assets come first, then what people who run the site ask for, then the
pages; a path of more than one line is none of them. -/
def answer (service : Service) (framework : Framework) (method : String) (target : Target)
    (now : Moment) (files : Files) : Answer :=
  let plain (response : Except RequestError Response) : Answer := { response, service, files }
  let get (response : Except RequestError Response) : Answer :=
    if method = "GET" then plain response else plain (.ok .notAllowed)
  let path := endOf target.path
  if path.toList.contains '\n' then plain (.ok .notFound)
  else
    match target.below? assetsPath with
    | some names =>
      plain (framework.file service.compiler.settings.assets method names files)
    | none =>
      match path with
      | "/api/v1/health" => get (.ok ⟨200, .json service.healthJson⟩)
      | "/api/v1/routes" => get service.routesResponse
      | "/api/v1/build" =>
        if method = "POST" then
          match (target.parameter? "force").map Target.flag? with
          | none => service.buildResponse false now files
          | some (some force) => service.buildResponse force now files
          | some none => plain (.ok ⟨422, .invalidParameter⟩)
        else get service.infoResponse
      | _ => get (service.pageResponse path now)

/-- Answers a request, with a page of the framework if there is one. -/
def respond (service : Service) (framework : Framework) (method : String) (target : Target)
    (now : Moment) (files : Files) : Answer :=
  match framework.pages.get? (endOf target.path) with
  | some page =>
    let response := if method = "GET" ∨ method = "HEAD" then page else .notAllowed
    { response := .ok response, service, files }
  | none => service.answer framework method target now files

end Service

end Sitewright
