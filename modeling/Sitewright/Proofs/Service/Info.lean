import Sitewright.Proofs.Command.Report
import Sitewright.Proofs.Service.Page
import Sitewright.Proofs.Settings.Priority

namespace Sitewright

namespace Settings

variable {platform : Platform} {fields : Fields} {env : Environment} {field name : String}
  {default : Json} {root : Path} {files : Files} {loaded : Loaded}

/-- A setting that the file does not give is a text, if the default is one. -/
theorem text?_choose_eq_none_iff (hd : default.text?.isSome = true) :
    (choose fields env field name default).text? = none ↔
      (Json.field fields field).truthy = true ∧ (Json.field fields field).text? = none := by
  rw [choose]
  split
  · next htruthy => exact (and_iff_right htruthy).symm
  · next hfalsy =>
    apply iff_of_false
    · intro hnone
      cases hgiven : env.given? name with
      | none =>
        rw [hgiven] at hnone
        exact Option.isSome_iff_ne_none.1 hd hnone
      | some text =>
        rw [hgiven] at hnone
        cases hnone
    · intro h
      exact hfalsy h.1

theorem truthy_choose (hd : default.truthy = true) :
    (choose fields env field name default).truthy = true := by
  rw [choose]
  split
  · next htruthy => exact htruthy
  · cases hgiven : env.given? name with
    | none => exact hd
    | some text =>
      have htext : text ≠ "" := by
        simpa using (Option.filter_eq_some_iff.1 hgiven).2
      exact bne_iff_ne.2 htext

/-- A model that is no text comes from the file of settings. -/
theorem text?_model_eq_none_iff (h : load platform root env files = .ok loaded) :
    loaded.settings.model.text? = none ↔
      ∃ v, Gives platform.nesting (root ++ ["config.json"]) files "model" v ∧ v.text? = none := by
  obtain ⟨new, fields, events, -, hread, rfl⟩ := load_eq_ok_iff.1 h
  refine (text?_choose_eq_none_iff rfl).trans ?_
  simp only [gives_iff hread]
  constructor
  · rintro ⟨htruthy, htext⟩
    exact ⟨_, ⟨rfl, htruthy⟩, htext⟩
  · rintro ⟨_, ⟨rfl, htruthy⟩, htext⟩
    exact ⟨htruthy, htext⟩

theorem truthy_model (h : load platform root env files = .ok loaded) :
    loaded.settings.model.truthy = true := by
  obtain ⟨new, fields, events, -, -, rfl⟩ := load_eq_ok_iff.1 h
  exact truthy_choose rfl

end Settings

namespace Service

variable {service : Service} {result : BuildResult} {force : Bool} {now : Moment} {files : Files}
  {target : Target}

/-- The texts that a service tells of its builds. -/
inductive Says (service : Service) : String → Prop
  | name {result : BuildResult} {s : Skipped} (hr : service.lastResult = some result)
    (h : s ∈ result.skipped) : Says service s.name
  | reason {result : BuildResult} {s : Skipped} (hr : service.lastResult = some result)
    (h : s ∈ result.skipped) : Says service s.reason
  | route {result : BuildResult} {path : String} (hr : service.lastResult = some result)
    (h : path ∈ result.routes.paths) : Says service path
  | model {result : BuildResult} {name : String} (hr : service.lastResult = some result)
    (h : result.plan.model = .str name) : Says service name
  | createdAt {result : BuildResult} (hr : service.lastResult = some result) :
    Says service result.plan.createdAt
  | error {said : String} (h : service.lastError = some said) : Says service said

/-- Why a service cannot tell of its builds: it serves a site of a new plan, and its settings call
the model by something that is no text; or one of the texts is not whole. -/
inductive Untold (service : Service) : Prop
  | model {result : BuildResult} (hr : service.lastResult = some result)
    (hnew : result.status = .compiled) (h : service.compiler.settings.model.text? = none)
  | torn {said : String} (hsaid : service.Says said) (h : ¬Text.Whole said)

/-- A new plan that is served has the model of the settings; a kept one has a text. -/
theorem Reached.model (h : Reached service) (hr : service.lastResult = some result) :
    (result.status = .compiled ∧ result.plan.model = service.compiler.settings.model) ∨
      result.status = .cached ∧ ∃ name, result.plan.model = .str name := by
  obtain ⟨compiler, force, now, files, -, hsettings, hbuild⟩ := h.exists_build hr
  rw [← hsettings]
  exact Compiler.model_of_result hbuild

theorem Reached.exists_name (h : Reached service) (hu : ¬service.Untold)
    (hr : service.lastResult = some result) : ∃ name, result.plan.model = .str name := by
  obtain ⟨hnew, hm⟩ | ⟨-, hname⟩ := h.model hr
  · rw [hm]
    cases hmodel : service.compiler.settings.model with
    | str name => exact ⟨name, rfl⟩
    | _ => exact absurd (.model hr hnew (by rw [hmodel]; rfl)) hu
  · exact hname

/-- A service that is reached can tell of its builds unless there is such a reason. -/
theorem Reached.tellable_iff (h : Reached service)
    (ht : service.compiler.settings.model.truthy = true) : service.Tellable ↔ ¬service.Untold := by
  constructor
  · intro htellable hu
    cases hu with
    | @model result hr hnew htext =>
      obtain ⟨-, hm⟩ | ⟨hcached, -⟩ := h.model hr
      · obtain ⟨name, hname, -⟩ := (htellable.result result hr).model (by rw [hm, ht])
        rw [← hm, hname] at htext
        cases htext
      · cases hnew.symm.trans hcached
    | @torn said hsaid htorn =>
      apply htorn
      cases hsaid with
      | name hr hs => exact ((htellable.result _ hr).skipped _ hs).1
      | reason hr hs => exact ((htellable.result _ hr).skipped _ hs).2
      | route hr hp => exact (htellable.result _ hr).routes _ hp
      | @model result _ hr hm =>
        by_cases hempty : said = ""
        · rw [hempty]
          exact nofun
        · have hgiven : result.plan.model.truthy = true := by
            rw [hm]
            exact bne_iff_ne.2 hempty
          have hmodel := (htellable.result _ hr).model hgiven
          rwa [hm, Json.tellable_str] at hmodel
      | createdAt hr => exact (htellable.result _ hr).createdAt
      | error he => exact htellable.error _ he
  · intro hu
    have hwhole {said : String} (hsaid : service.Says said) : Text.Whole said := by
      by_contra htorn
      exact hu (.torn hsaid htorn)
    constructor
    · intro result hr
      obtain ⟨name, hm⟩ := h.exists_name hu hr
      constructor
      · intro s hs
        exact ⟨hwhole (.name hr hs), hwhole (.reason hr hs)⟩
      · intro path hp
        exact hwhole (.route hr hp)
      · intro _
        rw [hm, Json.tellable_str]
        exact hwhole (.model hr hm)
      · exact hwhole (.createdAt hr)
    · intro said he
      exact hwhole (.error he)

/-- What a request for the state of a service comes to: its description, or an error where it cannot
be told. -/
def Describes (service : Service) (response : Except RequestError Response) : Prop :=
  (¬service.Untold ∧ ∃ told, service.info = .ok told ∧ response = .ok ⟨200, .json told.toJson⟩) ∨
    service.Untold ∧ ∃ e, service.info = .error e ∧ response = .error (.untold e)

theorem Reached.describes (h : Reached service)
    (ht : service.compiler.settings.model.truthy = true) :
    service.Describes service.infoResponse := by
  obtain ⟨htellable, hinfo⟩ | ⟨hnot, hinfo⟩ := service.infoResponse_cases
  · exact .inl ⟨(h.tellable_iff ht).1 htellable, hinfo⟩
  · rw [h.tellable_iff ht, Classical.not_not] at hnot
    exact .inr ⟨hnot, hinfo⟩

theorem answer_info (framework : Framework) (hpath : target.path = "/api/v1/build") :
    (service.answer framework "GET" target now files).response = service.infoResponse := by
  have hbelow : target.below? assetsPath = none := by
    rw [Target.below?, hpath]
    decide
  rw [answer, hpath, hbelow]
  rfl

@[simp] theorem compiler_rebuild (service : Service) (force : Bool) (now : Moment) (files : Files) :
    (service.rebuild force now files).2.compiler = service.compiler := by
  rw [rebuild_eq]
  cases (service.compiler.build force now files).result <;> rfl

theorem buildResponse_ok
    (h : (service.compiler.build force now files).result = .ok result) :
    let after := service.buildResponse force now files
    after.service = (service.rebuild force now files).2 ∧
      after.service.Serves (some ⟨result, now⟩) ∧
      after.response = after.service.infoResponse := by
  have hafter : (service.buildResponse force now files).service =
      service.settled now (.ok result) := by
    change (service.rebuild force now files).2 = _
    rw [rebuild_eq, h]
    rfl
  refine ⟨rfl, ?_, ?_⟩
  · rw [hafter]
    exact serves_settled_ok service now result
  · rw [buildResponse_response, h, hafter]

/-- The state of a service can be told, unless it serves a site of a new plan and its file of
settings names the model by something that is no text, or there is a text to tell that is not
whole. Short of that, a request for the state is answered, and so is a request for a build that goes
well; else both break off. -/
theorem builds_described_unless_untold {platform : Platform} {root : Path} {env : Environment}
    {files : Files} {loaded : Settings.Loaded}
    (hload : Settings.load platform root env files = .ok loaded) :
    (loaded.settings.model.text? = none ↔
      ∃ v, Settings.Gives platform.nesting (root ++ ["config.json"]) files "model" v ∧
        v.text? = none) ∧
    ∀ service, Reached service → service.compiler.settings = loaded.settings →
      ∀ framework (target : Target), target.path = "/api/v1/build" → ∀ now files,
        service.Describes (service.answer framework "GET" target now files).response ∧
        ∀ force result, target.force? = some force →
          (service.compiler.build force now files).result = .ok result →
          let after := service.answer framework "POST" target now files
          after.service.Serves (some ⟨result, now⟩) ∧ after.service.Describes after.response := by
  refine ⟨Settings.text?_model_eq_none_iff hload, ?_⟩
  intro service hreached hsettings framework target hpath now files
  have htruthy : service.compiler.settings.model.truthy = true := by
    rw [hsettings]
    exact Settings.truthy_model hload
  constructor
  · rw [answer_info framework hpath]
    exact hreached.describes htruthy
  · intro force result hforce hresult
    obtain ⟨hafter, hserves, hresponse⟩ := buildResponse_ok hresult
    dsimp only
    rw [answer_build framework hpath hforce, hresponse]
    refine ⟨hserves, ?_⟩
    rw [hafter]
    apply (hreached.rebuild force now files).describes
    rw [compiler_rebuild]
    exact htruthy

/-- What a file of settings gives a key and a model by. -/
def namingModel (model : Json) : Json :=
  .obj [("gemini", .obj [("apiKey", .str "k"), ("model", model)])]

/-- A project with an empty source, and a file of settings that names its model. -/
def namedProject (model : Json) : Files where
  entries :=
    [(["app.txt"], .file [] 5),
      (["config.json"], .file (Text.Utf8.encode (namingModel model).indentedText.toList) 5)]
  distinct := (by decide : [["app.txt"], ["config.json"]].Nodup)

/-- A new service of a project, with a client that has no calls for it. -/
def named (model : Json) : Service :=
  { compiler :=
      { settings := { Settings.standard [] with apiKey := .str "k", model }
        client := .own fun _ => .ok [] } }

theorem readFile_namedProject {model : Json} (hd : model.Distinct) (hl : model.long? = none)
    (hroom : model.depth ≤ 998) :
    Settings.readFile 1000 ["config.json"] (namedProject model) =
      .ok ([("apiKey", .str "k"), ("model", model)], []) := by
  have hfile : (namedProject model).get? ["config.json"] =
      some (.file (Text.Utf8.encode (namingModel model).indentedText.toList) 5) := rfl
  have hdistinct : (namingModel model).Distinct :=
    ⟨List.nodup_singleton _,
      ⟨(by decide : ["apiKey", "model"].Nodup), trivial, hd, trivial⟩, trivial⟩
  have hlong : (namingModel model).long? = none := by
    simp only [namingModel, Json.long?, Json.fieldsLong?, hl]
    rfl
  have hdepth : (namingModel model).depth ≤ 1000 := by
    simp only [namingModel, Json.depth, Json.fieldsDepth]
    omega
  have hjson := Files.readJson_indentedText hdistinct hdepth hfile
  rw [Json.readBack, hlong] at hjson
  rw [Settings.readFile, if_pos (by rw [hfile]; rfl), hjson]
  rfl

theorem load_namedProject {model : Json} (hd : model.Distinct) (hl : model.long? = none)
    (hroom : model.depth ≤ 998) (ht : model.truthy = true) :
    Settings.load {} [] [] (namedProject model) =
      .ok ⟨(named model).compiler.settings, [], []⟩ := by
  let fields : Fields := [("apiKey", .str "k"), ("model", model)]
  have hmodel : Settings.choose fields [] "model" "GEMINI_MODEL" (.str Settings.defaultModel) =
      model := if_pos ht
  have hbase : Settings.choose fields [] "openAIBase" "GEMINI_OPENAI_BASE"
      (.str Settings.defaultBase) = .str Settings.defaultBase := rfl
  have htrimmed : Text.withoutSlashes Settings.defaultBase = Settings.defaultBase := by decide
  have hsources : Settings.ofSources [] fields [] = (named model).compiler.settings := by
    rw [Settings.ofSources, hmodel, hbase, Json.display, htrimmed]
    rfl
  exact Settings.load_eq_ok_iff.2
    ⟨[], fields, [], rfl, readFile_namedProject hd hl hroom, by rw [hsources]⟩

theorem builds_described_unless_untold_named :
    ∃ info, ((named (.str "m")).answer {} "POST" { path := "/api/v1/build" } default
      (namedProject (.str "m"))).response = .ok ⟨200, .json info⟩ := by
  have hload : Settings.load {} [] [] (namedProject (.str "m")) = _ :=
    load_namedProject trivial rfl (by decide) rfl
  obtain ⟨-, h⟩ := builds_described_unless_untold hload
  obtain ⟨-, hbuild⟩ := h (named (.str "m")) (.new _) rfl {} { path := "/api/v1/build" } rfl
    default (namedProject (.str "m"))
  obtain ⟨-, ⟨-, told, -, hresponse⟩ | ⟨-, e, hinfo, -⟩⟩ := hbuild false _ rfl rfl
  · exact ⟨_, hresponse⟩
  · cases hinfo

/-- What is said of a model that is named by a number. -/
def numbered : ValidationError := ⟨"BuildResponse", ⟨"model", .int 5, .notText⟩, []⟩

/-- A model that the file of settings names by a number cannot be told. The build goes well, and
the request for it breaks off, and so does every request for the state after it. -/
theorem numbered_model_is_untold :
    Settings.load {} [] [] (namedProject (.int 5)) =
        .ok ⟨(named (.int 5)).compiler.settings, [], []⟩ ∧
      (∃ result, ((named (.int 5)).compiler.build false default (namedProject (.int 5))).result =
        .ok result) ∧
      (let after := (named (.int 5)).answer {} "POST" { path := "/api/v1/build" } default
        (namedProject (.int 5))
      after.response = .error (.untold numbered) ∧
        (after.service.answer {} "GET" { path := "/api/v1/build" } default after.files).response =
          .error (.untold numbered) ∧
        after.service.info = .error numbered) ∧
      numbered.message "see " = "1 validation error for BuildResponse\nmodel\n" ++
        "  Input should be a valid string [type=string_type, input_value=5, input_type=int]\n" ++
        "    For further information visit see string_type" :=
  ⟨load_namedProject trivial rfl (by decide) rfl, ⟨_, rfl⟩, ⟨rfl, rfl, rfl⟩, by decide +kernel⟩

end Service

end Sitewright
