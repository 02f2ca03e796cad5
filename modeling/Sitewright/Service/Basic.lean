import Sitewright.Build.Compiler

namespace Sitewright

/-- A site that is served: the routes that pages come from, the last build that went well and when
it was made, and the error of the last attempt if that went wrong. -/
structure Service where
  compiler : Compiler
  routes : Option RouteTable := none
  lastResult : Option BuildResult := none
  lastBuiltAt : Option Moment := none
  lastError : Option String := none
  deriving Inhabited

/-- The outcome of a build that a service reports. -/
def Outcome.reported (outcome : Outcome) : Outcome :=
  match outcome.result with
  | .ok _ => outcome
  | .error e => { outcome with events := outcome.events ++ [.buildFailed e.message] }

namespace Service

def isBuilt (service : Service) : Bool := service.routes.isSome

/-- Takes over what a build comes to: a new site to serve, or beside the old one what its error
says. -/
def settle (now : Moment) : Except String BuildResult → StateM Service Unit
  | .ok result => do
    modify fun service => { service with routes := some result.routes }
    modify fun service => { service with lastResult := some result }
    modify fun service => { service with lastBuiltAt := some now }
    modify fun service => { service with lastError := none }
  | .error said => modify fun service => { service with lastError := some said }

def rebuild (service : Service) (force : Bool) (now : Moment) (files : Files) :
    Outcome × Service :=
  let outcome := service.compiler.build force now files
  let ((), after) := (settle now (outcome.result.mapError BuildError.message)).run service
  (outcome.reported, after)

end Service

end Sitewright
