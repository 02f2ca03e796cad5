import Sitewright.Command.Run
import Sitewright.Proofs.Command.Report
import Sitewright.Proofs.Except
import Sitewright.Proofs.Keyed
import Sitewright.Proofs.Settings.Priority

namespace Sitewright

variable {platform : Platform} {name text : String} {env other : Environment} {path root : Path}
  {files : Files}

/-- Whether a platform adds the variables of a text alike, whatever one of them is set to. -/
def Platform.Spares (platform : Platform) (name text : String) : Prop :=
  ∀ env other : Environment, env.AgreeBut name other →
    Matching (Environment.AgreeBut name) (platform.addVariables env text)
      (platform.addVariables other text)

/-- A text that does not refer to a variable spares it, if it gives it no value that it cannot
have. -/
theorem Platform.spares_dotenv (href : ∀ b ∈ Binding.readAll text, ¬b.RefersTo name)
    (hgiven : ∀ (env : Environment) value, env.given text name = some value →
      Environment.Admissible name value) : Platform.Spares {} name text := by
  intro env other h
  apply h.dotenv href
  intro value hvalue
  exact hgiven env value (Option.join_eq_some_iff.2 hvalue)

namespace Environment.AgreeBut

theorem given? (h : AgreeBut name env other) {key : String} (hkey : key ≠ name) :
    other.given? key = env.given? key := by
  rw [Environment.given?, Environment.given?, h key hkey]

theorem withFile (h : AgreeBut name env other)
    (hspares : ∀ text, files.readText path = .ok text → platform.Spares name text) :
    Matching (AgreeBut name) (env.withFile platform path files)
      (other.withFile platform path files) := by
  rw [Environment.withFile, Environment.withFile]
  cases hread : files.readText path with
  | ok text => exact (hspares text hread env other h).mapError Settings.LoadError.unsettable
  | error e =>
    cases e with
    | encoding e => exact .error
    | file e => exact .ok h

end Environment.AgreeBut

namespace Settings

theorem choose_congr (h : env.AgreeBut name other) {fields : Fields} {field key : String}
    {default : Json} (hkey : key ≠ name) :
    choose fields other field key default = choose fields env field key default := by
  rw [choose, choose, h.given? hkey]

theorem ofSources_congr (h : env.AgreeBut "PORT" other) (root : Path) (fields : Fields) :
    ofSources root fields other = ofSources root fields env := by
  simp only [ofSources]
  rw [choose_congr h (by decide), choose_congr h (by decide), choose_congr h (by decide)]

/-- Settings do not depend on the number to listen on, if no file says that they do. -/
theorem load_congr (h : env.AgreeBut "PORT" other)
    (hspares : ∀ text, files.readText (root ++ [".env"]) = .ok text →
      platform.Spares "PORT" text) :
    Matching (fun loaded changed =>
        changed.settings = loaded.settings ∧ changed.events = loaded.events)
      (load platform root env files) (load platform root other files) := by
  rw [load_eq, load_eq]
  refine (h.withFile hspares).bind ?_
  intro new changed hnew
  apply Matching.after
  intro held
  exact .ok ⟨ofSources_congr hnew root held.1, rfl⟩

end Settings

namespace Command

namespace Invocation

variable {inv changed : Invocation}

/-- Whether two command lines ask for the same, but for the number to listen on. -/
def AlikeButNumber (inv changed : Invocation) : Prop := ∃ n, changed = { inv with tcp := n }

theorem AlikeButNumber.set (h : inv.AlikeButNumber changed) (switch : Switch) (value : String) :
    Matching AlikeButNumber (inv.set switch value) (changed.set switch value) := by
  obtain ⟨n, rfl⟩ := h
  cases switch with
  | help => exact .error
  | tcp =>
    rw [Invocation.set, Invocation.set]
    cases Text.integer value with
    | error e => exact .error
    | ok given => exact .ok ⟨given, rfl⟩
  | verbose | root | force | host => exact .ok ⟨n, rfl⟩

theorem AlikeButNumber.setAll (h : inv.AlikeButNumber changed) (next : List Token)
    (effects : List Effect) :
    Matching (fun a b => AlikeButNumber a.1 b.1 ∧ b.2 = a.2)
      (inv.setAll next effects) (changed.setAll next effects) := by
  induction effects generalizing inv changed next with
  | nil => exact .ok ⟨h, rfl⟩
  | cons effect rest ih =>
    cases effect with
    | unknown =>
      obtain ⟨n, rfl⟩ := h
      exact ih ⟨n, rfl⟩ next
    | set switch value =>
      cases value with
      | some value => exact (h.set switch value).bind fun _ _ halike => ih halike next
      | none =>
        unfold Invocation.setAll
        split
        · cases next with
          | nil => exact .error
          | cons token others =>
            cases token with
            | word text => exact (h.set switch text).bind fun _ _ halike => ih halike others
            | option _ _ | unknown _ | dashes => exact .error
        · exact (h.set switch "").bind fun _ _ halike => ih halike next

theorem AlikeButNumber.setGiven {α β : Type} {S : α → β → Prop} (h : inv.AlikeButNumber changed)
    (names : Names) (given : Given) (next : List Token)
    {k : Invocation → List Token → Except Stop α} {l : Invocation → List Token → Except Stop β}
    (hk : ∀ a b rest, AlikeButNumber a b → Matching S (k a rest) (l b rest)) :
    Matching S (do let (inv, rest) ← inv.setAll next (← given.effects names); k inv rest)
      (do let (inv, rest) ← changed.setAll next (← given.effects names); l inv rest) := by
  refine .after (given.effects names) fun effects => ?_
  refine (h.setAll next effects).bind fun a b hab => ?_
  obtain ⟨halike, hrest⟩ := hab
  dsimp only
  rw [hrest]
  exact hk a.1 b.1 a.2 halike

theorem AlikeButNumber.readTop (h : inv.AlikeButNumber changed) (steps : Nat)
    (found : List Token) :
    Matching (fun a b => AlikeButNumber a.1 b.1 ∧ b.2 = a.2)
      (inv.readTop steps found) (changed.readTop steps found) := by
  -- Not on the tokens: an option may use up the word behind it as well.
  induction steps generalizing inv changed found with
  | zero =>
    unfold Invocation.readTop
    exact .ok ⟨h, rfl⟩
  | succ steps ih =>
    cases found with
    | nil => exact .ok ⟨h, rfl⟩
    | cons first rest =>
      cases first with
      | word text => exact .ok ⟨h, rfl⟩
      | dashes => exact .error
      | unknown text =>
        obtain ⟨n, rfl⟩ := h
        exact ih ⟨n, rfl⟩ rest
      | option text given =>
        exact h.setGiven topNames given rest fun _ _ rest halike => ih halike rest

theorem AlikeButNumber.readAction (h : inv.AlikeButNumber changed) (names : Names) (steps : Nat)
    (found : List Token) :
    Matching AlikeButNumber (inv.readAction names steps found)
      (changed.readAction names steps found) := by
  induction steps generalizing inv changed found with
  | zero =>
    unfold Invocation.readAction
    exact .ok h
  | succ steps ih =>
    cases found with
    | nil => exact .ok h
    | cons first rest =>
      cases first with
      | word _ | unknown _ =>
        obtain ⟨n, rfl⟩ := h
        exact ih ⟨n, rfl⟩ rest
      | dashes => exact .error
      | option text given =>
        exact h.setGiven names given rest fun _ _ rest halike => ih halike rest

theorem AlikeButNumber.finish (h : inv.AlikeButNumber changed) :
    Matching AlikeButNumber
      (if inv.leftover then .error .usage else .ok inv : Except Stop Invocation)
      (if changed.leftover then .error .usage else .ok changed) := by
  obtain ⟨n, rfl⟩ := h
  dsimp only
  split
  · exact .error
  · exact .ok ⟨n, rfl⟩

/-- The number that a command line starts from changes nothing but the number to listen on. -/
theorem read_alike (n m : Int) (args : List String) :
    Matching AlikeButNumber (read n args) (read m args) := by
  have hstart : AlikeButNumber { tcp := n } { tcp := m } := ⟨m, rfl⟩
  refine .after (tokens topNames args) fun found => ?_
  refine (hstart.readTop found.length found).bind fun a b hab => ?_
  obtain ⟨⟨number, hb⟩, hrest⟩ := hab
  dsimp only
  rw [hrest, hb]
  cases a.2 with
  | nil => exact AlikeButNumber.finish ⟨number, rfl⟩
  | cons name args =>
    dsimp only
    cases Action.ofName? name with
    | none => exact .error
    | some action =>
      refine .after (tokens action.names args) fun found => ?_
      have hbegun : AlikeButNumber { a.1 with action := some action }
          { a.1 with tcp := number, action := some action } := ⟨number, rfl⟩
      exact (hbegun.readAction action.names found.length found).bind fun _ _ h => h.finish

end Invocation

variable {around : Surroundings} {args : List String} {given changed : Option String}

/-- Whether two runs do the same: they end, print, serve, write and ask alike. -/
structure Run.Same (run changed : Run) : Prop where
  ending : changed.ending = run.ending
  lines : changed.lines = run.lines
  serve : changed.serve = run.serve
  files : changed.files = run.files
  sent : changed.sent = run.sent
  events : changed.events = run.events

/-- The surroundings in which the number to listen on is given by a text, or not at all. -/
def Surroundings.withNumber (around : Surroundings) (given : Option String) : Surroundings :=
  { around with
    environment :=
      match given with
      | some text => around.environment.put "PORT" text
      | none => around.environment.erase "PORT" }

theorem Surroundings.get?_withNumber (around : Surroundings) (given : Option String)
    (name : String) :
    (around.withNumber given).environment.get? name =
      if name = "PORT" then given else around.environment.get? name := by
  cases given with
  | none => simp [withNumber]
  | some text => simp [withNumber]

theorem Surroundings.agreeBut_withNumber (around : Surroundings) (given changed : Option String) :
    (around.withNumber given).environment.AgreeBut "PORT"
      (around.withNumber changed).environment := by
  intro name hname
  rw [get?_withNumber, get?_withNumber, if_neg hname, if_neg hname]

namespace Run

variable {env : Environment} {run run' : Run}

theorem Same.told (h : run.Same run') (events : List Event) :
    Same { run with events := events ++ run.events }
      { run' with events := events ++ run'.events } :=
  ⟨h.ending, h.lines, h.serve, h.files, h.sent, congrArg (events ++ ·) h.events⟩

theorem same_begun (ending : Except Failure Ending) :
    Same (begun around ending) (begun { around with environment := env } ending) :=
  ⟨rfl, rfl, rfl, rfl, rfl, rfl⟩

theorem same_ofOutcome (outcome : Outcome) (good : BuildResult → List String) :
    Same (ofOutcome around outcome good)
      (ofOutcome { around with environment := env } outcome good) := by
  rw [ofOutcome, ofOutcome]
  cases outcome.result with
  | ok result => exact ⟨rfl, rfl, rfl, rfl, rfl, rfl⟩
  | error e =>
    dsimp only
    cases errorLine? e <;> exact ⟨rfl, rfl, rfl, rfl, rfl, rfl⟩

theorem Same.print (h : run.Same run') (output : Text.Codec) :
    Same (run.print output) (run'.print output) := by
  rw [Run.print, Run.print, h.lines]
  cases run.lines.findSome? fun line => output.unencodable? line.toList with
  | none => exact h
  | some e => exact ⟨rfl, rfl, rfl, h.files, h.sent, h.events⟩

theorem same_clearCache (compiler : Compiler) :
    Same (clearCache around compiler)
      (clearCache { around with environment := env } compiler) := by
  rw [clearCache, clearCache]
  dsimp only
  cases Plan.clear compiler.settings.cache around.files with
  | error e => exact same_begun _
  | ok cleared => exact ⟨rfl, rfl, rfl, rfl, rfl, rfl⟩

/-- An action that does not listen does the same whatever the number to listen on. -/
theorem same_act (hagree : around.environment.AgreeBut "PORT" env) {inv inv' : Invocation}
    (halike : inv.AlikeButNumber inv') {action : Action} (haction : action ≠ .serve)
    (hspares : ∀ text, around.files.readText (around.locate inv.root ++ [".env"]) = .ok text →
      around.platform.Spares "PORT" text) :
    Same (act around inv action) (act { around with environment := env } inv' action) := by
  obtain ⟨n, rfl⟩ := halike
  rw [act, act]
  dsimp only
  obtain ⟨e, he, he'⟩ | ⟨loaded, loaded', hl, hl', hsettings, hevents⟩ :=
    (Settings.load_congr hagree hspares).error_or_ok
  · rw [he, he']
    exact same_begun _
  · rw [hl, hl']
    dsimp only
    rw [hsettings, hevents]
    cases action with
    | compile => exact ((same_ofOutcome _ _).print _).told loaded.events
    | serve => exact absurd rfl haction
    | clearCache => exact ((same_clearCache _).print _).told loaded.events

end Run

/-- Whether a command line asks for something else than to serve a site, of a project whose file
of variables spares the number to listen on. -/
structure Quiet (around : Surroundings) (args : List String) : Prop where
  action : ∀ inv, Invocation.read 3000 args = .ok inv → inv.action ≠ some .serve
  apart : ∀ inv, Invocation.read 3000 args = .ok inv →
    ∀ text, around.files.readText (around.locate inv.root ++ [".env"]) = .ok text →
      around.platform.Spares "PORT" text

/-- The number to listen on that a variable gives, or that there is without it. -/
def numberOf (given : Option String) : Except Text.IntegerError Int :=
  Text.integer (given.getD defaultNumber)

theorem run_withNumber (around : Surroundings) (given : Option String) (args : List String) :
    run (around.withNumber given) args =
      match numberOf given with
      | .error e => .begun (around.withNumber given) (.error (.tcp e))
      | .ok number =>
        match Invocation.read number args with
        | .error .help =>
          { Run.begun (around.withNumber given) (.ok (.exit 0)) with lines := help }
        | .error .usage => .begun (around.withNumber given) (.ok (.exit 2))
        | .ok inv =>
          match inv.action with
          | none => { Run.begun (around.withNumber given) (.ok (.code 1)) with lines := help }
          | some action => .act (around.withNumber given) inv action := by
  rw [run, around.get?_withNumber, if_pos rfl]
  rfl

theorem Quiet.of_read (h : Quiet around args) {n : Int} {inv : Invocation}
    (hread : Invocation.read n args = .ok inv) :
    inv.action ≠ some .serve ∧
      ∀ text, around.files.readText (around.locate inv.root ++ [".env"]) = .ok text →
        around.platform.Spares "PORT" text := by
  -- `Quiet` reads the line with the default number, which may not be the one given here.
  obtain ⟨e, -, he⟩ | ⟨inv', inv'', hinv', hinv'', k, rfl⟩ :=
    (Invocation.read_alike 3000 n args).error_or_ok
  · cases hread.symm.trans he
  · cases hread.symm.trans hinv''
    exact ⟨h.action inv' hinv', h.apart inv' hinv'⟩

theorem Quiet.same_run (h : Quiet around args) {n m : Int} (hgiven : numberOf given = .ok n)
    (hchanged : numberOf changed = .ok m) :
    (run (around.withNumber given) args).Same (run (around.withNumber changed) args) := by
  rw [run_withNumber, run_withNumber, hgiven, hchanged]
  dsimp only
  obtain ⟨stop, hstop, hstop'⟩ | ⟨inv, inv', hinv, hinv', halike⟩ :=
    (Invocation.read_alike n m args).error_or_ok
  · rw [hstop, hstop']
    cases stop with
    | help => exact ⟨rfl, rfl, rfl, rfl, rfl, rfl⟩
    | usage => exact Run.same_begun _
  · obtain ⟨haction, hapart⟩ := h.of_read hinv
    have hsame : inv'.action = inv.action := by
      obtain ⟨_, rfl⟩ := halike
      rfl
    rw [hinv, hinv']
    dsimp only
    rw [hsame]
    cases hact : inv.action with
    | none => exact ⟨rfl, rfl, rfl, rfl, rfl, rfl⟩
    | some action =>
      have hquiet : action ≠ .serve := fun hserve => haction (hserve ▸ hact)
      exact Run.same_act (around.agreeBut_withNumber given changed) halike hquiet hapart

/-- A command that does not listen does the same whatever number to listen on is given, if any. A
variable that gives none, though it is set, ends it before it has begun. -/
theorem run_same_or_ended_by_number (h : Quiet around args) :
    (∀ given changed n m, numberOf given = .ok n → numberOf changed = .ok m →
      (run (around.withNumber given) args).Same (run (around.withNumber changed) args)) ∧
    ∀ given e, numberOf given = .error e →
      let run := run (around.withNumber given) args
      run.ending = .error (.tcp e) ∧ run.lines = [] ∧ run.sent = [] ∧ run.files = around.files := by
  refine ⟨fun given changed n m hgiven hchanged => h.same_run hgiven hchanged, ?_⟩
  intro given e he
  dsimp only
  rw [run_withNumber, he]
  exact ⟨rfl, rfl, rfl, rfl⟩

/-- A file of variables that refers to one, and gives a number to listen on. -/
def referringText : String := "GEMINI_MODEL=$\x7bNAME\x7d\nPORT=80\n"

def referring : Surroundings :=
  { withoutSource with
    files := { entries := [([".env"], .file (Text.Utf8.encode referringText.toList) 5)] } }

theorem quiet_referring : Quiet referring ["clear-cache"] where
  action := by
    intro inv hread
    cases hread
    decide
  apart := by
    intro inv hread text htext
    have hknown : referring.files.readText ([] ++ [".env"]) = .ok referringText := by decide
    have hfound : ∀ b ∈ Binding.readAll referringText, ∀ value ∈ b.value,
        ∀ ref ∈ Reference.found value, ref.name ≠ "PORT" := by
      decide
    cases htext.symm.trans hknown
    apply Platform.spares_dotenv
    · rintro b hb ⟨value, hvalue, ref, href, hname⟩
      exact hfound b hb value hvalue ref href hname
    · intro env value hvalue
      have hlines : Binding.readAll referringText =
          [⟨"GEMINI_MODEL", some "$\x7bNAME\x7d"⟩, ⟨"PORT", some "80"⟩] := by decide
      rw [Environment.given, hlines, Environment.resolve_eq, List.foldl_cons, List.foldl_cons,
        List.foldl_nil, Environment.note, Keyed.get?_put, if_pos rfl] at hvalue
      obtain rfl : "80" = value := Option.some.inj hvalue
      exact ⟨by decide, by decide⟩

theorem run_same_or_ended_by_number_referring :
    (run (referring.withNumber none) ["clear-cache"]).Same
        (run (referring.withNumber (some " 8_080 ")) ["clear-cache"]) ∧
      ∃ e, (run (referring.withNumber (some "abc")) ["clear-cache"]).ending = .error (.tcp e) := by
  obtain ⟨hsame, hended⟩ := run_same_or_ended_by_number quiet_referring
  exact ⟨hsame none (some " 8_080 ") 3000 8080 rfl rfl, _, (hended (some "abc") _ rfl).1⟩

/-- A number that nobody listens on ends a command all the same, if it is none. -/
theorem unneeded_number_ends_run :
    (run (withoutSource.withNumber none) ["clear-cache"]).ending = .ok (.code 0) ∧
      (∃ e, (run (withoutSource.withNumber (some "abc")) ["clear-cache"]).ending =
        .error (.tcp e)) ∧
      (run (withoutSource.withNumber none) ["compile"]).ending = .ok (.code 1) ∧
      ∃ e, (run (withoutSource.withNumber (some "")) ["compile"]).ending = .error (.tcp e) :=
  ⟨rfl, ⟨_, rfl⟩, rfl, _, rfl⟩

end Command

end Sitewright
