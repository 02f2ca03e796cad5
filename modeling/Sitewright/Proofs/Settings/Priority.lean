import Sitewright.Proofs.Build.Forced
import Sitewright.Proofs.Build.Report
import Sitewright.Proofs.Plan.Format
import Sitewright.Proofs.Settings.Environment
import Sitewright.Proofs.Text.Blank
import Sitewright.Settings.Load

namespace Sitewright

variable {platform : Platform} {given : Environment → String → String → Option String}
  {root path : Path} {env new : Environment} {files other : Files}

namespace Environment

variable {name text : String}

/-- Whether a variable is set to a text: by the environment, or else by a file of variables. What
the environment sets, if only to the empty text, the file does not. -/
inductive Sets (given : Environment → String → String → Option String) (env : Environment)
    (path : Path) (files : Files) (name : String) : String → Prop
  | own {text : String} (h : env.get? name = some text) : Sets given env path files name text
  | file {text contents : String} (hunset : env.get? name = none)
    (hread : files.readText path = .ok contents) (h : given env contents name = some text) :
    Sets given env path files name text

theorem get?_withFile (hv : platform.SetsUnset given)
    (h : env.withFile platform path files = .ok new) :
    new.get? name = some text ↔ env.Sets given path files name text := by
  rw [withFile] at h
  constructor
  · intro hnew
    split at h
    · next contents hread =>
      rw [hv _ _ _ (mapError_eq_ok_iff.1 h)] at hnew
      cases hown : env.get? name with
      | some v =>
        rw [hown, Option.some_or] at hnew
        exact .own (hown.trans hnew)
      | none =>
        rw [hown, Option.none_or] at hnew
        exact .file hown hread hnew
    · cases h
    · cases h
      exact .own hnew
  · intro hsets
    cases hsets with
    | own hown =>
      split at h
      · rw [hv _ _ _ (mapError_eq_ok_iff.1 h), hown, Option.some_or]
      · cases h
      · cases h
        exact hown
    | file hunset hread hgiven =>
      rw [hread] at h
      rw [hv _ _ _ (mapError_eq_ok_iff.1 h), hunset, hgiven]
      rfl

end Environment

namespace Settings

variable {fields : Fields} {field name : String} {default v : Json} {loaded : Loaded}
  {room : Nat} {cause : LoadError}

/-- Whether a file holds settings: a text in UTF-8 that is a document of an object with an object
of settings in it. -/
def Holds (room : Nat) (path : Path) (files : Files) (fields : Fields) : Prop :=
  ∃ s modified outer, files.get? path = some (.file (Text.Utf8.encode s) modified) ∧
    Json.Document room s (.obj outer) ∧ Json.field outer "gemini" = .obj fields

/-- Whether a file gives a setting: it holds settings, and one of them counts as given. -/
def Gives (room : Nat) (path : Path) (files : Files) (field : String) (v : Json) : Prop :=
  ∃ fields, Holds room path files fields ∧ Json.field fields field = v ∧ v.truthy = true

/-- Whether a file is a text in UTF-8 that has more brackets open than there is room for, before
anything else is wrong with it. -/
def Overfills (room : Nat) (path : Path) (files : Files) (e : Json.TooDeep) : Prop :=
  ∃ s modified, files.get? path = some (.file (Text.Utf8.encode s) modified) ∧
    Json.Overfull room s e

theorem readFile_of_holds (h : Holds room path files fields) :
    readFile room path files = .ok (fields, []) := by
  obtain ⟨s, modified, outer, hfile, hdocument, hinner⟩ := h
  have hjson := Files.readJson_eq_ok_iff.2 ⟨s, modified, hfile, hdocument⟩
  have hsome : (files.get? path).isSome = true := by
    rw [hfile]
    rfl
  rw [readFile, if_pos hsome, hjson]
  dsimp only
  rw [hinner]

theorem readFile_eq_error_iff {e : Json.TooDeep} :
    readFile room path files = .error e ↔ Overfills room path files e := by
  rw [Overfills, ← Files.readJson_deep_iff, readFile]
  constructor
  · intro h
    split at h
    · split at h
      · split at h <;> cases h
      · cases h
      · next hdeep =>
        cases h
        exact hdeep
      · cases h
    · cases h
  · intro h
    obtain ⟨s, modified, hfile, -⟩ := Files.readJson_deep_iff.1 h
    have hsome : (files.get? path).isSome = true := by
      rw [hfile]
      rfl
    rw [if_pos hsome, h]

/-- What is read of a file is what it holds, or else nothing. -/
theorem holds_of_readFile {events : List Event}
    (h : readFile room path files = .ok (fields, events)) :
    Holds room path files fields ∨ fields = [] ∧ ∀ fields, ¬Holds room path files fields := by
  by_cases hholds : ∃ fields, Holds room path files fields
  · obtain ⟨held, hheld⟩ := hholds
    rw [readFile_of_holds hheld] at h
    cases h
    exact .inl hheld
  · refine .inr ⟨?_, not_exists.1 hholds⟩
    rw [readFile] at h
    split at h
    · split at h
      · next outer hjson =>
        obtain ⟨s, modified, hfile, hdocument⟩ := Files.readJson_eq_ok_iff.1 hjson
        split at h
        · next inner hinner =>
          exact absurd ⟨inner, s, modified, outer, hfile, hdocument, hinner⟩ hholds
        · cases h
          rfl
      · cases h
        rfl
      · cases h
      · cases h
        rfl
    · cases h
      rfl

theorem gives_iff {events : List Event} (h : readFile room path files = .ok (fields, events)) :
    Gives room path files field v ↔ Json.field fields field = v ∧ v.truthy = true := by
  constructor
  · rintro ⟨held, hheld, hgiven⟩
    rw [readFile_of_holds hheld] at h
    cases h
    exact hgiven
  · intro hgiven
    obtain hholds | ⟨rfl, -⟩ := holds_of_readFile h
    · exact ⟨fields, hholds, hgiven⟩
    · obtain ⟨rfl, htruthy⟩ := hgiven
      cases htruthy

theorem not_gives (hholds : Holds room path files fields)
    (hfalsy : (Json.field fields field).truthy = false) (v : Json) :
    ¬Gives room path files field v := by
  intro hgives
  obtain ⟨rfl, htruthy⟩ := (gives_iff (readFile_of_holds hholds)).1 hgives
  rw [hfalsy] at htruthy
  cases htruthy

/-- What a setting is: the value in the file of settings, if that one gives it; else a variable
that is set to something; else the default. -/
inductive Resolves (room : Nat) (given : Environment → String → String → Option String)
    (root : Path) (env : Environment) (files : Files) (field name : String) (default : Json) :
    Json → Prop
  | file {v : Json} (h : Gives room (root ++ ["config.json"]) files field v) :
    Resolves room given root env files field name default v
  | set {text : String} (hfile : ∀ v, ¬Gives room (root ++ ["config.json"]) files field v)
    (h : env.Sets given (root ++ [".env"]) files name text) (htext : text ≠ "") :
    Resolves room given root env files field name default (.str text)
  | default (hfile : ∀ v, ¬Gives room (root ++ ["config.json"]) files field v)
    (h : ∀ text, env.Sets given (root ++ [".env"]) files name text → text = "") :
    Resolves room given root env files field name default default

theorem given?_eq_some_iff (hv : platform.SetsUnset given)
    (h : env.withFile platform path files = .ok new) {text : String} :
    new.given? name = some text ↔ env.Sets given path files name text ∧ text ≠ "" := by
  rw [Environment.given?, Option.filter_eq_some_iff, Environment.get?_withFile hv h, bne_iff_ne]

theorem choose_eq_iff (hv : platform.SetsUnset given)
    (henv : env.withFile platform (root ++ [".env"]) files = .ok new) {events : List Event}
    (hread : readFile room (root ++ ["config.json"]) files = .ok (fields, events)) :
    choose fields new field name default = v ↔
      Resolves room given root env files field name default v := by
  constructor
  · rintro rfl
    rw [choose]
    split
    · next htruthy => exact .file ((gives_iff hread).2 ⟨rfl, htruthy⟩)
    · next hfalsy =>
      have hfile : ∀ v, ¬Gives room (root ++ ["config.json"]) files field v := by
        intro v hgives
        obtain ⟨rfl, htruthy⟩ := (gives_iff hread).1 hgives
        exact hfalsy htruthy
      cases hgiven : new.given? name with
      | some text =>
        obtain ⟨hsets, htext⟩ := (given?_eq_some_iff hv henv).1 hgiven
        exact .set hfile hsets htext
      | none =>
        apply Resolves.default hfile
        intro text hsets
        by_contra htext
        have hsome := (given?_eq_some_iff hv henv).2 ⟨hsets, htext⟩
        exact Option.some_ne_none text (hsome.symm.trans hgiven)
  · intro hresolves
    rw [choose]
    cases hresolves with
    | file hgives =>
      obtain ⟨rfl, htruthy⟩ := (gives_iff hread).1 hgives
      exact if_pos htruthy
    | set hfile hsets htext =>
      rw [if_neg fun htruthy => hfile _ ((gives_iff hread).2 ⟨rfl, htruthy⟩),
        (given?_eq_some_iff hv henv).2 ⟨hsets, htext⟩]
      rfl
    | default hfile hsets =>
      have hgiven : new.given? name = none := by
        rw [Option.eq_none_iff_forall_ne_some]
        intro text hsome
        obtain ⟨hset, htext⟩ := (given?_eq_some_iff hv henv).1 hsome
        exact htext (hsets text hset)
      rw [if_neg fun htruthy => hfile _ ((gives_iff hread).2 ⟨rfl, htruthy⟩), hgiven]
      rfl

/-- Whether what a model is asked with follows the priority: each setting by itself, and the
address without the slashes that it ends in. -/
structure Prioritized (room : Nat) (given : Environment → String → String → Option String)
    (root : Path) (env : Environment) (files : Files) (settings : Settings) : Prop where
  apiKey (v : Json) :
    settings.apiKey = v ↔ Resolves room given root env files "apiKey" "GEMINI_API_KEY" .null v
  model (v : Json) :
    settings.model = v ↔
      Resolves room given root env files "model" "GEMINI_MODEL" (.str defaultModel) v
  apiBase (v : Json) :
    settings.apiBase = v ↔
      ∃ base stem, Resolves room given root env files "openAIBase" "GEMINI_OPENAI_BASE"
          (.str defaultBase) base ∧
        Text.Stem base.display stem ∧ v = .str stem

/-- The settings of a project from what its file of settings holds and its variables. -/
def ofSources (root : Path) (fields : Fields) (env : Environment) : Settings :=
  let base := choose fields env "openAIBase" "GEMINI_OPENAI_BASE" (.str defaultBase)
  { standard root with
    apiKey := choose fields env "apiKey" "GEMINI_API_KEY" .null
    model := choose fields env "model" "GEMINI_MODEL" (.str defaultModel)
    apiBase := .str (Text.withoutSlashes base.display) }

theorem load_eq (platform : Platform) (root : Path) (env : Environment) (files : Files) :
    load platform root env files = do
      let new ← env.withFile platform (root ++ [".env"]) files
      let held ← (readFile platform.nesting (root ++ ["config.json"]) files).mapError .deep
      return ⟨ofSources root held.1 new, new, held.2⟩ := rfl

theorem load_eq_ok_iff :
    load platform root env files = .ok loaded ↔
      ∃ new fields events, env.withFile platform (root ++ [".env"]) files = .ok new ∧
        readFile platform.nesting (root ++ ["config.json"]) files = .ok (fields, events) ∧
          loaded = ⟨ofSources root fields new, new, events⟩ := by
  rw [load_eq]
  constructor
  · intro h
    obtain ⟨new, hnew, h⟩ := exists_of_bind h
    obtain ⟨⟨fields, events⟩, hheld, h⟩ := exists_of_bind h
    cases h
    exact ⟨new, fields, events, hnew, mapError_eq_ok_iff.1 hheld, rfl⟩
  · rintro ⟨new, fields, events, hnew, hheld, rfl⟩
    rw [hnew, hheld]
    rfl

/-- What keeps a project from having settings: a file of variables that is no text or is refused,
or a file of settings that goes too deep. -/
inductive Stops (platform : Platform) (root : Path) (env : Environment) (files : Files) :
    LoadError → Prop
  | garbled {bytes : List UInt8} {fault : Text.Utf8.Error}
    (hbytes : files.read (root ++ [".env"]) = .ok bytes)
    (h : Files.textOfBytes bytes = .error fault) : Stops platform root env files (.encoding fault)
  | refused {text said : String} (hread : files.readText (root ++ [".env"]) = .ok text)
    (h : platform.addVariables env text = .error said) :
    Stops platform root env files (.unsettable said)
  | deep {e : Json.TooDeep} (henv : ∃ new, env.withFile platform (root ++ [".env"]) files = .ok new)
    (h : Overfills platform.nesting (root ++ ["config.json"]) files e) :
    Stops platform root env files (.deep e)

theorem stops_of_withFile (h : env.withFile platform (root ++ [".env"]) files = .error cause) :
    Stops platform root env files cause := by
  rw [Environment.withFile] at h
  split at h
  · next text hread =>
    obtain ⟨said, hsaid, rfl⟩ := mapError_eq_error_iff.1 h
    exact .refused hread hsaid
  · next fault hread =>
    cases h
    obtain ⟨bytes, hbytes, hfault⟩ := Files.readText_eq_encoding_iff.1 hread
    exact .garbled hbytes hfault
  · cases h

theorem load_eq_error_iff :
    load platform root env files = .error cause ↔ Stops platform root env files cause := by
  rw [load_eq, bind_eq_error_iff]
  constructor
  · rintro (henv | ⟨new, henv, h⟩)
    · exact stops_of_withFile henv
    · obtain hheld | ⟨held, -, h⟩ := bind_eq_error_iff.1 h
      · obtain ⟨e, hdeep, rfl⟩ := mapError_eq_error_iff.1 hheld
        exact .deep ⟨new, henv⟩ (readFile_eq_error_iff.1 hdeep)
      · cases h
  · intro h
    cases h with
    | garbled hbytes hfault =>
      left
      rw [Environment.withFile, Files.readText_eq_encoding_iff.2 ⟨_, hbytes, hfault⟩]
    | refused hread hsaid =>
      left
      rw [Environment.withFile, hread]
      exact mapError_eq_error_iff.2 ⟨_, hsaid, rfl⟩
    | deep henv hdeep =>
      obtain ⟨new, henv⟩ := henv
      refine .inr ⟨new, henv, ?_⟩
      rw [readFile_eq_error_iff.2 hdeep]
      rfl

theorem exists_load_iff :
    (∃ loaded, load platform root env files = .ok loaded) ↔
      ∀ cause, ¬Stops platform root env files cause := by
  simp only [← load_eq_error_iff]
  cases load platform root env files with
  | ok loaded => exact iff_of_true ⟨loaded, rfl⟩ nofun
  | error cause => exact iff_of_false nofun fun h => h cause rfl

theorem prioritized_ofSources (hv : platform.SetsUnset given)
    (henv : env.withFile platform (root ++ [".env"]) files = .ok new) {events : List Event}
    (hread : readFile room (root ++ ["config.json"]) files = .ok (fields, events)) :
    Prioritized room given root env files (ofSources root fields new) := by
  constructor
  · intro v
    exact choose_eq_iff hv henv hread
  · intro v
    exact choose_eq_iff hv henv hread
  · intro v
    simp only [← choose_eq_iff hv henv hread, Text.stem_iff]
    constructor
    · rintro rfl
      exact ⟨_, _, rfl, rfl, rfl⟩
    · rintro ⟨_, _, rfl, rfl, rfl⟩
      rfl

/-- A file that holds no settings changes nothing but what is reported of it. -/
theorem load_eq_of_not_holds
    (hnone : ∀ fields, ¬Holds platform.nesting (root ++ ["config.json"]) files fields)
    (hagree : files.AgreeOutside (root ++ ["config.json"]) other)
    (hother : other.get? (root ++ ["config.json"]) = none)
    (h : load platform root env files = .ok loaded) :
    ∃ events, load platform root env other = .ok { loaded with events } := by
  -- The file of variables does not lie below the one of settings, so it is read alike.
  have hapart : ¬root ++ ["config.json"] <+: root ++ [".env"] := by
    rw [List.prefix_append_right_inj]
    decide
  have henv : env.withFile platform (root ++ [".env"]) other =
      env.withFile platform (root ++ [".env"]) files := by
    rw [Environment.withFile, Environment.withFile, hagree.readText hapart]
  have hbare : readFile platform.nesting (root ++ ["config.json"]) other = .ok ([], []) := by
    rw [readFile, hother]
    rfl
  obtain ⟨new, fields, events, hnew, hread, rfl⟩ := load_eq_ok_iff.1 h
  obtain hholds | ⟨rfl, -⟩ := holds_of_readFile hread
  · exact absurd hholds (hnone fields)
  · exact ⟨[], load_eq_ok_iff.2 ⟨new, [], [], henv.trans hnew, hbare, rfl⟩⟩

/-- Loading gives settings whatever files of variables and of settings there are, unless the first
is garbled or refused, or the second goes too deep. The settings follow the priority, variables
that are set stay as they are, and from a file that holds no settings comes what comes from none. -/
theorem load_follows_priority (hv : platform.SetsUnset given) (root : Path) (env : Environment)
    (files : Files) :
    (∀ cause, load platform root env files = .error cause ↔
        Stops platform root env files cause) ∧
      ((∃ loaded, load platform root env files = .ok loaded) ↔
        ∀ cause, ¬Stops platform root env files cause) ∧
      ∀ loaded, load platform root env files = .ok loaded →
        Prioritized platform.nesting given root env files loaded.settings ∧
        (∀ name text, loaded.environment.get? name = some text ↔
          env.Sets given (root ++ [".env"]) files name text) ∧
        ((∀ fields, ¬Holds platform.nesting (root ++ ["config.json"]) files fields) →
          ∀ other, files.AgreeOutside (root ++ ["config.json"]) other →
            other.get? (root ++ ["config.json"]) = none →
              ∃ events, load platform root env other = .ok { loaded with events }) := by
  refine ⟨fun cause => load_eq_error_iff, exists_load_iff, ?_⟩
  intro loaded hload
  obtain ⟨new, fields, events, hnew, hread, rfl⟩ := load_eq_ok_iff.1 hload
  refine ⟨prioritized_ofSources hv hnew hread, ?_, ?_⟩
  · intro name text
    exact Environment.get?_withFile hv hnew
  · intro hnone other hagree hother
    exact load_eq_of_not_holds hnone hagree hother hload

/-- A file of settings with an empty key and an address. -/
def addressed : Json :=
  .obj [("gemini", .obj [("apiKey", .str ""), ("openAIBase", .str "https://m.test/v1//")])]

/-- A project with settings in both of its files. -/
def layeredProject : Files where
  entries :=
    [([".env"], .file (Text.Utf8.encode "GEMINI_API_KEY=k\nGEMINI_MODEL=m\n".toList) 5),
      (["config.json"], .file (Text.Utf8.encode addressed.indentedText.toList) 5)]

theorem holds_layeredProject :
    Holds 1000 ["config.json"] layeredProject
      [("apiKey", .str ""), ("openAIBase", .str "https://m.test/v1//")] := by
  have hdistinct : addressed.Distinct :=
    ⟨(by decide : ["gemini"].Nodup),
      ⟨(by decide : ["apiKey", "openAIBase"].Nodup), trivial, trivial, trivial⟩, trivial⟩
  have hfile : layeredProject.get? ["config.json"] =
      some (.file (Text.Utf8.encode addressed.indentedText.toList) 5) := rfl
  have hjson : layeredProject.readJson 1000 ["config.json"] = .ok addressed :=
    Files.readJson_indentedText hdistinct (by decide) hfile
  obtain ⟨s, modified, hs, hdocument⟩ := Files.readJson_eq_ok_iff.1 hjson
  exact ⟨s, modified, _, hs, hdocument, rfl⟩

/-- An environment in which the key is set, to nothing. -/
def keyless : Environment := [("GEMINI_API_KEY", "")]

theorem load_follows_priority_layered :
    ∃ loaded, load {} [] keyless layeredProject = .ok loaded ∧
      loaded.settings.apiKey = .null ∧ loaded.settings.model = .str "m" ∧
      loaded.settings.apiBase = .str "https://m.test/v1" := by
  have hread : layeredProject.readText [".env"] = .ok "GEMINI_API_KEY=k\nGEMINI_MODEL=m\n" := by
    decide
  have haccepted : keyless.dotenv "GEMINI_API_KEY=k\nGEMINI_MODEL=m\n" =
      .ok [("GEMINI_API_KEY", ""), ("GEMINI_MODEL", "m")] := by decide +kernel
  have hset : keyless.Sets Environment.given [".env"] layeredProject "GEMINI_MODEL" "m" :=
    .file rfl hread (by decide)
  have hblocked (text : String)
      (h : keyless.Sets Environment.given [".env"] layeredProject "GEMINI_API_KEY" text) :
      text = "" := by
    cases h with
    | own hown => exact (Option.some.inj hown).symm
    | file hunset => cases hunset
  have hgives :
      Gives 1000 ["config.json"] layeredProject "openAIBase" (.str "https://m.test/v1//") :=
    ⟨_, holds_layeredProject, rfl, by decide⟩
  have hstem : Text.Stem "https://m.test/v1//" "https://m.test/v1" := ⟨⟨2, by decide⟩, by decide⟩
  obtain ⟨-, hexists, hloads⟩ :=
    load_follows_priority Platform.setsUnset_dotenv [] keyless layeredProject
  have hgoes : ∀ cause, ¬Stops {} [] keyless layeredProject cause := by
    intro cause hstops
    cases hstops with
    | garbled hbytes hfault =>
      cases hread.symm.trans (Files.readText_eq_encoding_iff.2 ⟨_, hbytes, hfault⟩)
    | refused hother hsaid =>
      cases hread.symm.trans hother
      cases haccepted.symm.trans hsaid
    | deep _ hdeep =>
      cases (readFile_of_holds holds_layeredProject).symm.trans (readFile_eq_error_iff.2 hdeep)
  obtain ⟨loaded, hload⟩ := hexists.2 hgoes
  obtain ⟨hprioritized, -⟩ := hloads loaded hload
  refine ⟨loaded, hload, (hprioritized.apiKey _).2 (.default ?_ hblocked),
    (hprioritized.model _).2 (.set ?_ hset (by decide)),
    (hprioritized.apiBase _).2 ⟨_, _, .file hgives, hstem, rfl⟩⟩
  · exact not_gives holds_layeredProject rfl
  · exact not_gives holds_layeredProject rfl

/-- A project whose file of settings is nothing but a hundred thousand opening brackets. -/
def bracketedProject : Files where
  entries := [(["config.json"], .file (Text.Utf8.encode (List.replicate 100000 '[')) 5)]

/-- Brackets break loading off, where an invalid file of settings should only be ignored. -/
theorem brackets_break_loading_off :
    bracketedProject.get? [".env"] = none ∧
      load {} [] [] bracketedProject = .error (.deep .array) := by
  refine ⟨rfl, load_eq_error_iff.2 (.deep ⟨[], rfl⟩ ?_)⟩
  exact ⟨_, 5, rfl, Json.overfull_brackets (by decide)⟩

end Settings

end Sitewright
