import Sitewright.Command.Run
import Sitewright.Proofs.Build.Report
import Sitewright.Proofs.Service.History
import Sitewright.Proofs.Service.Telling
import Sitewright.Proofs.Settings.Priority

namespace Sitewright

namespace Response

variable {status : Nat} {code message : String} {details : Json}

end Response

/-- What a request for a build says of an old plan; without a word it may be used again. -/
def Target.force? (target : Target) : Option Bool :=
  match target.parameter? "force" with
  | none => some false
  | some word => flag? word

namespace Service

variable {service : Service} {force : Bool} {now : Moment} {files : Files}

theorem answer_build (framework : Framework) {target : Target}
    (hpath : target.path = "/api/v1/build") (hforce : target.force? = some force) :
    service.answer framework "POST" target now files =
      service.buildResponse force now files := by
  have hbelow : target.below? assetsPath = none := by
    rw [Target.below?, hpath]
    decide
  rw [answer, hpath, hbelow]
  rw [Target.force?] at hforce
  cases hparameter : target.parameter? "force" with
  | none =>
    rw [hparameter] at hforce
    cases hforce
    rfl
  | some word =>
    rw [hparameter] at hforce
    dsimp only at hforce
    rw [Option.map_some, hforce]
    rfl

theorem buildResponse_response (service : Service) (force : Bool) (now : Moment) (files : Files) :
    (service.buildResponse force now files).response =
      match (service.compiler.build force now files).result with
      | .ok result => (service.settled now (.ok result)).infoResponse
      | .error e => Response.ofBuildError e := by
  have hresult : (service.rebuild force now files).1.result =
      (service.compiler.build force now files).result := result_reported _
  rw [buildResponse]
  dsimp only
  rw [hresult, rebuild_eq]
  cases (service.compiler.build force now files).result with
  | ok result => rfl
  | error e => rfl

end Service

/-- Whether all that there is to say of the end of a build is whole. -/
def Outcome.Tellable (outcome : Outcome) : Prop :=
  match outcome.result with
  | .ok result => result.Tellable
  | .error e => Text.Whole e.message

namespace Service

variable {service : Service} {force : Bool} {now : Moment} {files : Files}

end Service

namespace Command

variable {around : Surroundings} {args : List String} {inv : Invocation}

/-- Whether a command line asks for a build, of a project that has no file of variables and where
nobody has said on which number to listen. -/
structure Compiles (around : Surroundings) (args : List String) (inv : Invocation) : Prop where
  silent : around.environment.get? "PORT" = none
  read : Invocation.read 3000 args = .ok inv
  action : inv.action = some .compile
  bare : around.files.get? (around.locate inv.root ++ [".env"]) = none

def Surroundings.compiler (around : Surroundings) (settings : Settings) : Compiler where
  settings
  platform := around.platform
  client := .remote around.endpoint

namespace Run

variable {output : Text.Codec} {told : Run} {outcome : Outcome}

end Run

end Command

def withoutSource : Command.Surroundings where
  files := { entries := [], distinct := List.nodup_nil }
  environment := []
  endpoint := { reply := fun _ => .failed "unreachable" }
  now := default
  locate := fun _ => []

end Sitewright
