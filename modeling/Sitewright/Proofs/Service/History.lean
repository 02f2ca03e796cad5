import Mathlib.Data.List.Induction
import Sitewright.Proofs.Build.Cached
import Sitewright.Service.Server

namespace Sitewright

/-- A site as it is served: the build that it comes from, and when that was. -/
structure Served where
  result : BuildResult
  builtAt : Moment

/-- Whether what a service serves is this, or nothing: its routes, its last good build and the
moment of that build are all of one and the same build, or there is none of them. -/
structure Service.Serves (service : Service) (good : Option Served) : Prop where
  routes : service.routes = good.map (·.result.routes)
  lastResult : service.lastResult = good.map (·.result)
  lastBuiltAt : service.lastBuiltAt = good.map (·.builtAt)

/-- What a service meets with: an attempt to build, however it ends, a page that is asked for, or
a question about the builds. -/
inductive Demand where
  | rebuild (now : Moment) (ended : Except String BuildResult)
  | page (path : String) (now : Moment)
  | info

/-- An attempt to build: when it ended, and with what. -/
structure Attempt where
  now : Moment
  ended : Except String BuildResult

namespace Attempt

variable (attempt : Attempt)

/-- What an attempt gives to serve. -/
def served? : Option Served :=
  match attempt.ended with
  | .ok result => some ⟨result, attempt.now⟩
  | .error _ => none

def error? : Option String :=
  match attempt.ended with
  | .ok _ => none
  | .error said => some said

end Attempt

namespace Demand

def attempt? : Demand → Option Attempt
  | rebuild now ended => some ⟨now, ended⟩
  | page .. | info => none

def attempts (demands : List Demand) : List Attempt := demands.filterMap attempt?

/-- The last build that went well. -/
def lastGood? (demands : List Demand) : Option Served :=
  ((attempts demands).filterMap Attempt.served?).getLast?

end Demand

namespace Service

variable {service : Service} {attempts : List Attempt} {good : Option Served}

/-- What a service becomes when an attempt to build has ended. -/
def settled (service : Service) (now : Moment) (ended : Except String BuildResult) : Service :=
  ((settle now ended).run service).2

@[simp] theorem settled_error (service : Service) (now : Moment) (said : String) :
    service.settled now (.error said) = { service with lastError := some said } := rfl

/-- A build that goes well sets all four of what a service keeps. -/
@[simp] theorem settled_ok (service : Service) (now : Moment) (result : BuildResult) :
    service.settled now (.ok result) =
      { service with
        routes := some result.routes
        lastResult := some result
        lastBuiltAt := some now
        lastError := none } := rfl

theorem serves_settled_ok (service : Service) (now : Moment) (result : BuildResult) :
    (service.settled now (.ok result)).Serves (some ⟨result, now⟩) := by
  rw [settled_ok]
  exact ⟨rfl, rfl, rfl⟩

theorem Serves.settled_error (h : service.Serves good) (now : Moment) (said : String) :
    (service.settled now (.error said)).Serves good := by
  rw [Service.settled_error]
  exact ⟨h.routes, h.lastResult, h.lastBuiltAt⟩

theorem Serves.routes_eq_none_iff (h : service.Serves good) :
    service.routes = none ↔ good = none := by
  rw [h.routes, Option.map_eq_none_iff]

def meet (service : Service) : Demand → Service
  | .rebuild now ended => service.settled now ended
  | .page .. | .info => service

def meetAll (service : Service) (demands : List Demand) : Service := demands.foldl meet service

/-- Whether a service stands as these attempts have left it: it serves the last of them that went
well, and has the error of the last one if that went wrong. -/
structure Follows (service : Service) (attempts : List Attempt) : Prop where
  serves : service.Serves (attempts.filterMap Attempt.served?).getLast?
  lastError : service.lastError = attempts.getLast?.bind Attempt.error?

theorem Follows.settled (h : service.Follows attempts) (now : Moment)
    (ended : Except String BuildResult) :
    (service.settled now ended).Follows (attempts ++ [⟨now, ended⟩]) := by
  cases ended with
  | ok result =>
    constructor
    · rw [List.filterMap_append, List.filterMap_cons_some (f := Attempt.served?) rfl,
        List.filterMap_nil, List.getLast?_concat]
      exact serves_settled_ok service now result
    · rw [List.getLast?_concat]
      rfl
  | error said =>
    constructor
    · rw [List.filterMap_append, List.filterMap_cons_none (f := Attempt.served?) rfl,
        List.filterMap_nil, List.append_nil]
      exact h.serves.settled_error now said
    · rw [List.getLast?_concat]
      rfl

theorem follows_meetAll (compiler : Compiler) (demands : List Demand) :
    (meetAll { compiler } demands).Follows (Demand.attempts demands) := by
  induction demands using List.reverseRecOn with
  | nil => exact ⟨⟨rfl, rfl, rfl⟩, rfl⟩
  | append_singleton demands demand ih =>
    rw [meetAll, List.foldl_append, Demand.attempts, List.filterMap_append]
    cases demand with
    | rebuild now ended => exact ih.settled now ended
    | page path now =>
      rw [List.filterMap_cons_none (f := Demand.attempt?) rfl, List.filterMap_nil, List.append_nil]
      exact ih
    | info =>
      rw [List.filterMap_cons_none (f := Demand.attempt?) rfl, List.filterMap_nil, List.append_nil]
      exact ih

theorem Follows.routes_eq_none_iff (h : service.Follows attempts) :
    service.routes = none ↔ ∀ attempt ∈ attempts, attempt.served? = none := by
  rw [h.serves.routes_eq_none_iff, List.getLast?_eq_none_iff, List.filterMap_eq_nil_iff]

theorem Serves.pageResponse_eq :
    service.Serves good → ∀ path now, service.pageResponse path now =
      match good with
      | none => Response.html 503 "<h1>Site not built</h1>"
      | some served =>
        match findRoute served.result.routes path with
        | none => Response.html 404 "<h1>Not Found</h1>"
        | some route => Response.html 200 (route.render now) := by
  intro h path now
  rw [pageResponse, h.routes]
  cases good with
  | none => rfl
  | some served => rfl

theorem meetAll_append (service : Service) (demands more : List Demand) :
    service.meetAll (demands ++ more) = (service.meetAll demands).meetAll more :=
  List.foldl_append

@[simp] theorem result_reported (outcome : Outcome) : outcome.reported.result = outcome.result := by
  rw [Outcome.reported]
  split <;> rfl

theorem rebuild_eq (service : Service) (force : Bool) (now : Moment) (files : Files) :
    (service.rebuild force now files).2 =
      service.settled now
        ((service.compiler.build force now files).result.mapError BuildError.message) := rfl

theorem rebuild_eq_meet (service : Service) (force : Bool) (now : Moment) (files : Files) :
    (service.rebuild force now files).2 =
      service.meet (.rebuild now
        ((service.rebuild force now files).1.result.mapError BuildError.message)) := by
  have hended : (service.rebuild force now files).1.result =
      (service.compiler.build force now files).result := result_reported _
  rw [rebuild_eq, meet, hended]

theorem Serves.info_cases (h : service.Serves good) {told : BuildInfo}
    (hi : service.info = .ok told) :
    told.routes = (good.map (·.result.routes.paths)).getD [] ∧
      ((∃ served, good = some served ∧ service.lastError = none ∧ told.success = true ∧
          told.state = .done served.result.status) ∨
        (good = none ∨ service.lastError.isSome = true) ∧ told.success = false ∧
          told.state = .failed) := by
  rw [info, h.lastResult] at hi
  cases good with
  | none =>
    obtain ⟨-, -, hi⟩ := exists_of_bind hi
    cases hi
    exact ⟨rfl, .inr ⟨.inl rfl, rfl, rfl⟩⟩
  | some served =>
    obtain ⟨-, -, hi⟩ := exists_of_bind hi
    obtain ⟨-, -, hi⟩ := exists_of_bind hi
    cases hi
    refine ⟨rfl, ?_⟩
    cases service.lastError with
    | none => exact .inl ⟨served, rfl, rfl, rfl, rfl⟩
    | some said => exact .inr ⟨.inr rfl, rfl, rfl⟩

theorem Follows.of_last_ok (h : service.Follows attempts) {now : Moment} {result : BuildResult}
    (ha : attempts.getLast? = some ⟨now, .ok result⟩) :
    (attempts.filterMap Attempt.served?).getLast? = some ⟨result, now⟩ ∧
      service.lastError = none := by
  obtain ⟨earlier, rfl⟩ := List.getLast?_eq_some_iff.1 ha
  rw [h.lastError, ha, List.filterMap_append,
    List.filterMap_cons_some (f := Attempt.served?) rfl, List.filterMap_nil, List.getLast?_concat]
  exact ⟨rfl, rfl⟩

-- What is served only shows that there was an attempt; that the last one went well is told by the
-- error that there is not.
theorem Follows.last_ok (h : service.Follows attempts) {served : Served}
    (hserved : (attempts.filterMap Attempt.served?).getLast? = some served)
    (herror : service.lastError = none) :
    ∃ now result, attempts.getLast? = some ⟨now, .ok result⟩ := by
  have hsome : attempts ≠ [] := by
    rintro rfl
    cases hserved
  have hlast := List.getLast?_eq_some_getLast hsome
  rw [h.lastError, hlast, Option.bind_some] at herror
  cases hended : attempts.getLast hsome with
  | mk now ended =>
    rw [hended] at herror hlast
    cases ended with
    | ok result => exact ⟨now, result, hlast⟩
    | error said => cases herror

theorem Follows.info (h : service.Follows attempts) {told : BuildInfo}
    (hi : service.info = .ok told) :
    (told.success = true ↔ ∃ now result, attempts.getLast? = some ⟨now, .ok result⟩) ∧
      (∀ now result, attempts.getLast? = some ⟨now, .ok result⟩ →
        told.state = .done result.status) ∧
      (told.success = false → told.state = .failed) := by
  obtain ⟨-, ⟨served, hserved, herror, hsuccess, hstate⟩ | ⟨hbad, hsuccess, hstate⟩⟩ :=
    h.serves.info_cases hi
  · refine ⟨iff_of_true hsuccess (h.last_ok hserved herror), ?_, ?_⟩
    · intro now result ha
      obtain rfl := Option.some.inj (hserved.symm.trans (h.of_last_ok ha).1)
      exact hstate
    · intro hf
      cases hsuccess.symm.trans hf
  · have hnot (now : Moment) (result : BuildResult) :
        attempts.getLast? ≠ some ⟨now, .ok result⟩ := by
      intro ha
      obtain ⟨hserved, herror⟩ := h.of_last_ok ha
      obtain hnone | hsome := hbad
      · cases hserved.symm.trans hnone
      · rw [herror] at hsome
        cases hsome
    refine ⟨iff_of_false ?_ ?_, ?_, fun _ => hstate⟩
    · intro ht
      cases hsuccess.symm.trans ht
    · rintro ⟨now, result, ha⟩
      exact hnot now result ha
    · intro now result ha
      exact absurd ha (hnot now result)

/-- Whatever attempts to build there were, and whatever was asked between them, what a service
serves is all of the last build that went well: its routes, its result and its moment. Pages come
from there, an attempt that fails changes nothing but the error, and only the last attempt decides
what is told of success. -/
theorem serves_last_good (compiler : Compiler) (demands : List Demand) :
    let service := meetAll { compiler } demands
    let attempts := Demand.attempts demands
    let good := Demand.lastGood? demands
    (service.routes = good.map (·.result.routes) ∧ service.lastResult = good.map (·.result) ∧
        service.lastBuiltAt = good.map (·.builtAt)) ∧
      (service.routes = none ↔ ∀ attempt ∈ attempts, attempt.served? = none) ∧
      (∀ path now, service.pageResponse path now =
        match good with
        | none => Response.html 503 "<h1>Site not built</h1>"
        | some build =>
          match findRoute build.result.routes path with
          | none => Response.html 404 "<h1>Not Found</h1>"
          | some route => Response.html 200 (route.render now)) ∧
      (∀ force now files,
        let rebuilt := service.rebuild force now files
        rebuilt.2 = meetAll { compiler }
          (demands ++ [.rebuild now (rebuilt.1.result.mapError BuildError.message)])) ∧
      (∀ now said, meetAll { compiler } (demands ++ [.rebuild now (.error said)]) =
        { service with lastError := some said }) ∧
      ∀ told, service.info = .ok told →
        (told.success = true ↔ ∃ now result, attempts.getLast? = some ⟨now, .ok result⟩) ∧
        (∀ now result, attempts.getLast? = some ⟨now, .ok result⟩ →
          told.state = .done result.status) ∧
        (told.success = false → told.state = .failed) ∧
        told.routes = (good.map (·.result.routes.paths)).getD [] := by
  intro service attempts good
  have hfollows : service.Follows attempts := follows_meetAll compiler demands
  have hserves : service.Serves good := hfollows.serves
  refine ⟨⟨hserves.routes, hserves.lastResult, hserves.lastBuiltAt⟩,
    hfollows.routes_eq_none_iff, hserves.pageResponse_eq, ?_, ?_, ?_⟩
  · intro force now files
    dsimp only
    rw [meetAll_append]
    exact rebuild_eq_meet service force now files
  · intro now said
    rw [meetAll_append]
    exact settled_error service now said
  · intro told hi
    obtain ⟨hsuccess, hdone, hfailed⟩ := hfollows.info hi
    exact ⟨hsuccess, hdone, hfailed, (hserves.info_cases hi).1⟩

/-- A build that goes well between two that do not, and a page that is asked for in the end. -/
def roughTimes : List Demand :=
  [.rebuild default (.error "no key"), .info,
    .rebuild default (.ok ⟨Compiler.onePagePlan, .compiled, Compiler.onePageReplay⟩),
    .rebuild default (.error "no connection"), .page "/" default]

theorem serves_last_good_rough_times :
    let service := meetAll { compiler := Compiler.onePage } roughTimes
    service.pageResponse "/" default = .ok ⟨200, .html "hi"⟩ ∧
      ∃ told, service.info = .ok told ∧ told.success = false ∧ told.state = .failed ∧
        told.routes = ["/"] := by
  intro service
  obtain ⟨-, -, hpage, -, -, hinfo⟩ := serves_last_good Compiler.onePage roughTimes
  have htold : ∃ told, service.info = .ok told ∧ told.success = false := ⟨_, rfl, rfl⟩
  obtain ⟨told, hi, hs⟩ := htold
  obtain ⟨-, -, hstate, hroutes⟩ := hinfo told hi
  exact ⟨hpage "/" default, told, hi, hs, hstate hs, hroutes⟩

end Service

end Sitewright
