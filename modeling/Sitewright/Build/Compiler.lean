import Sitewright.Build.Snapshot

namespace Sitewright

/-- What builds a project: its settings, the tools that plans may use, what it runs on, and who
gives the plans. -/
structure Compiler where
  settings : Settings
  registry : Registry := .standard
  platform : Platform := {}
  client : Client
  deriving Inhabited

/-- What a build comes to. `question` is what was asked for a plan, and `sent` are the requests
that went out for it. -/
structure Outcome where
  result : Except BuildError BuildResult
  files : Files
  question : Option Question := none
  sent : List ChatRequest := []
  events : List Event := []

namespace Compiler

def interpreter (compiler : Compiler) : Interpreter where
  registry := compiler.registry
  nesting := compiler.platform.nesting

/-- Asks for the calls of a site; without an account nobody is asked. -/
def ask (compiler : Compiler) (question : Question) : Option Question × Asked BuildError :=
  match compiler.client with
  | .own answer => (some question, { answer := answer question })
  | .remote endpoint =>
    match compiler.settings.account with
    | .error e => (none, { answer := .error e })
    | .ok account =>
      let asked := account.ask compiler.platform.nesting endpoint question
      (some question, { asked with answer := asked.answer.mapError .client })

/-- Keeps a plan; a build goes on if it cannot be kept, unless that is because it goes too deep. -/
def keep (compiler : Compiler) (plan : Plan) (files : Files) : Files × Except Json.TooDeep Event :=
  let saved := plan.save compiler.platform compiler.settings.cache files
  (saved.files,
    match saved.failure? with
    | none => .ok (.planSaved compiler.settings.cache.text)
    | some (.reported e) => .ok (.planNotSaved e.message)
    | some (.deep e) => .error e)

/-- Builds from a new plan. -/
def compile (compiler : Compiler) (snapshot : Snapshot) (now : Moment) (meanwhile : Meanwhile)
    (files : Files) : Outcome :=
  let (question, asked) :=
    compiler.ask (snapshot.question compiler.registry.definitions)
  match asked.answer with
  | .error e =>
    { result := .error e, files, question, sent := asked.sent, events := asked.events }
  | .ok calls =>
    let plan := snapshot.plan compiler.settings now calls
    let (files, saved) := compiler.keep plan (meanwhile .save files)
    let (result, events) : Except BuildError BuildResult × List Event :=
      match saved with
      | .error e => (.error (.halt (.deep e)), [])
      | .ok event =>
        let (result, events) := BuildResult.ofPlan compiler.interpreter .compiled plan
        (result, event :: events)
    { result, files, question
      sent := asked.sent
      events := asked.events ++ .modelAnswered calls.length :: events }

/-- Builds from the kept plan if it holds, else from a new one. -/
def resume (compiler : Compiler) (snapshot : Snapshot) (now : Moment) (meanwhile : Meanwhile)
    (files : Files) : Outcome :=
  let files := meanwhile .plan files
  match snapshot.kept? compiler.platform.nesting compiler.settings.cache files with
  | .error e => { result := .error (.halt (.deep e)), files }
  | .ok (some plan, events) =>
    let (result, more) := BuildResult.ofPlan compiler.interpreter .cached plan
    { result, files, events := events ++ more }
  | .ok (none, events) =>
    let outcome := compiler.compile snapshot now meanwhile files
    { outcome with events := events ++ outcome.events }

/-- Builds a project while its files may change; `force` asks for a new plan in any case. -/
def buildWhile (compiler : Compiler) (meanwhile : Meanwhile) (force : Bool) (now : Moment)
    (files : Files) : Outcome :=
  match Snapshot.take compiler.settings meanwhile files with
  | (.error e, files) => { result := .error e, files }
  | (.ok snapshot, files) =>
    if force then compiler.compile snapshot now meanwhile files
    else compiler.resume snapshot now meanwhile files

def build (compiler : Compiler) (force : Bool) (now : Moment) (files : Files) : Outcome :=
  compiler.buildWhile .nothing force now files

end Compiler

end Sitewright
