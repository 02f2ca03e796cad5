import Sitewright.Proofs.Tool.Image
import Sitewright.Proofs.Tool.WellFormed
import Sitewright.Proofs.Tool.Work

namespace Sitewright

namespace Json

/-- The value of a field, null for a value that has no fields. -/
def member (v : Json) (name : String) : Json :=
  match v with
  | .obj fields => field fields name
  | _ => .null

/-- The types that schemas ask for. -/
inductive OfType (name : String) : Json → Prop
  | string (h : name = "string") (s : String) : OfType name (.str s)
  | object (h : name = "object") (fields : Fields) : OfType name (.obj fields)

theorem OfType.exists_text {v : Json} (h : OfType "string" v) : ∃ s, v = .str s := by
  cases h with
  | string _ s => exact ⟨s, rfl⟩
  | object hname _ => exact absurd hname (by decide)

/-- The names of the properties of a schema of objects. -/
def properties (schema : Json) : List String :=
  match schema.member "properties" with
  | .obj parts => Keyed.keys parts
  | _ => []

/-- Whether a schema of objects asks for a property. -/
def Requires (schema : Json) (name : String) : Prop :=
  ∃ names, schema.member "required" = .arr names ∧ .str name ∈ names

/-- Whether a value is valid against a schema: what a keyword of it asks for, the value has. -/
inductive Conforms : Json → Json → Prop
  | intro {schema v : Json}
    (type : ∀ name, schema.member "type" = .str name → OfType name v)
    (choices : ∀ items, schema.member "enum" = .arr items → v ∈ items)
    (required : ∀ fields : Fields, v = .obj fields →
      ∀ name, schema.Requires name → name ∈ fields.keys)
    (properties : ∀ fields parts : Fields, v = .obj fields →
      schema.member "properties" = .obj parts → ∀ name value part,
        fields.get? name = some value → parts.get? name = some part → Conforms part value)
    (others : ∀ fields : Fields, v = .obj fields →
      schema.member "additionalProperties" = .bool false →
        ∀ name ∈ fields.keys, name ∈ schema.properties) :
    Conforms schema v

/-- The arguments for which a schema has a property. -/
def restrict (schema : Json) (args : Fields) : Fields :=
  args.filter fun entry => decide (entry.1 ∈ schema.properties)

theorem get?_restrict {schema : Json} {name : String} (h : name ∈ schema.properties)
    (args : Fields) : (schema.restrict args).get? name = args.get? name := by
  rw [restrict, Keyed.get?_filter args (fun name => decide (name ∈ schema.properties)),
    if_pos (decide_eq_true h)]

end Json

namespace Parameter

variable {p : Parameter} {v : Json}

theorem toJson_of_choices (h : p.choices ≠ []) :
    p.toJson = .obj [("type", .str "string"), ("enum", .arr (p.choices.map .str)),
      ("description", .str p.description)] := by
  rw [toJson, if_neg (by simpa using h)]
  rfl

theorem toJson_of_free (h : p.choices = []) :
    p.toJson = .obj [("type", .str "string"), ("description", .str p.description)] := by
  rw [toJson, if_pos (by simpa using h)]
  rfl

/-- A parameter takes the texts that it has for choices, or all texts if it has none. -/
theorem conforms_iff :
    Json.Conforms p.toJson v ↔ ∃ s, v = .str s ∧ (p.choices ≠ [] → s ∈ p.choices) := by
  by_cases hfree : p.choices = []
  · rw [toJson_of_free hfree]
    constructor
    · rintro ⟨type, -, -, -, -⟩
      obtain ⟨s, rfl⟩ := (type "string" rfl).exists_text
      exact ⟨s, rfl, fun h => absurd hfree h⟩
    · rintro ⟨s, rfl, -⟩
      refine .intro ?_ nofun nofun nofun nofun
      rintro name hname
      cases hname
      exact .string rfl s
  · rw [toJson_of_choices hfree]
    constructor
    · rintro ⟨type, choices, -, -, -⟩
      obtain ⟨s, rfl⟩ := (type "string" rfl).exists_text
      obtain ⟨choice, hchoice, hs⟩ := List.mem_map.1 (choices _ rfl)
      cases hs
      exact ⟨s, rfl, fun _ => hchoice⟩
    · rintro ⟨s, rfl, hs⟩
      refine .intro ?_ ?_ nofun nofun nofun
      · rintro name hname
        cases hname
        exact .string rfl s
      · rintro items hitems
        cases hitems
        exact List.mem_map_of_mem (hs hfree)

end Parameter

namespace Definition

variable {d : Definition} {args : Fields} {name : String}

/-- What a model is told of a tool under a name. -/
def published (d : Definition) (name : String) : Json := (d.entry.member "function").member name

def schema (d : Definition) : Json := d.published "parameters"

def names (d : Definition) : List String := d.parameters.map Parameter.name

theorem properties_schema (d : Definition) : d.schema.properties = d.names := by
  change Keyed.keys (d.parameters.map fun p => (p.name, p.toJson)) = d.names
  rw [Keyed.keys, names, List.map_map]
  rfl

theorem requires_iff : d.schema.Requires name ↔ name ∈ d.required := by
  constructor
  · rintro ⟨names, hnames, hname⟩
    cases hnames
    obtain ⟨_, hrequired, he⟩ := List.mem_map.1 hname
    cases he
    exact hrequired
  · exact fun hname => ⟨_, rfl, List.mem_map_of_mem hname⟩

/-- Whether arguments are what the parameters of a tool ask for. -/
structure Takes (d : Definition) (args : Fields) : Prop where
  required : ∀ name ∈ d.required, name ∈ args.keys
  known : ∀ name ∈ args.keys, name ∈ d.names
  text : ∀ p ∈ d.parameters, ∀ v, args.get? p.name = some v →
    ∃ s, v = .str s ∧ (p.choices ≠ [] → s ∈ p.choices)

theorem conforms_iff (hd : d.names.Nodup) : Json.Conforms d.schema (.obj args) ↔ d.Takes args := by
  have hparts : (Keyed.keys (d.parameters.map fun p => (p.name, p.toJson))).Nodup := by
    rw [Keyed.keys, List.map_map]
    exact hd
  constructor
  · rintro ⟨-, -, required, properties, others⟩
    refine ⟨fun name hname => required args rfl name (requires_iff.2 hname),
      d.properties_schema ▸ others args rfl rfl, fun p hp v hv => ?_⟩
    have hmem : (p.name, p.toJson) ∈ d.parameters.map fun p => (p.name, p.toJson) :=
      List.mem_map_of_mem hp
    have hpart := (Keyed.get?_eq_some_iff hparts).2 hmem
    exact Parameter.conforms_iff.1 (properties args _ rfl rfl p.name v _ hv hpart)
  · intro htakes
    refine .intro ?_ ?_ ?_ ?_ ?_
    · intro name hname
      cases hname
      exact .object rfl args
    · intro items hitems
      cases hitems
    · rintro fields hfields name hname
      cases hfields
      exact htakes.required name (requires_iff.1 hname)
    · rintro fields parts hfields hproperties name value part hvalue hpart
      cases hfields
      cases hproperties
      obtain ⟨p, hp, he⟩ := List.mem_map.1 ((Keyed.get?_eq_some_iff hparts).1 hpart)
      cases he
      exact Parameter.conforms_iff.2 (htakes.text p hp value hvalue)
    · rintro fields hfields - name hname
      cases hfields
      exact d.properties_schema ▸ htakes.known name hname

variable (h : d.Takes args)
include h

theorem Takes.exists_text (hname : name ∈ d.names) (hrequired : name ∈ d.required) :
    ∃ s, args.get? name = some (.str s) := by
  obtain ⟨p, hp, rfl⟩ := List.mem_map.1 hname
  have hsome := (Keyed.isSome_get?_iff args p.name).2 (h.required _ hrequired)
  obtain ⟨v, hv⟩ := Option.isSome_iff_exists.1 hsome
  obtain ⟨s, rfl, -⟩ := h.text p hp v hv
  exact ⟨s, hv⟩

theorem Takes.mem_choices {p : Parameter} (hp : p ∈ d.parameters) (hchoices : p.choices ≠ [])
    {s : String} (hs : args.get? p.name = some (.str s)) : s ∈ p.choices := by
  obtain ⟨_, he, hmem⟩ := h.text p hp _ hs
  cases he
  exact hmem hchoices

theorem Takes.not_overlong (name : String) : ¬(Json.field args name).Overlong := by
  rw [Json.field]
  cases hv : args.get? name with
  | none => exact Bool.false_ne_true
  | some v =>
    have hkey : name ∈ args.keys := by
      rw [← Keyed.isSome_get?_iff, hv]
      rfl
    obtain ⟨p, hp, rfl⟩ := List.mem_map.1 (h.known name hkey)
    obtain ⟨s, rfl, -⟩ := h.text p hp v hv
    exact Bool.false_ne_true

end Definition

/-- Whether the arguments that a schema asks for say something: a path begins with a slash, and
neither an asset nor a placeholder is empty. -/
structure Filled (schema : Json) (args : Fields) : Prop where
  path : "path" ∈ schema.properties → ∀ path, args.get? "path" = some (.str path) → Rooted path
  asset : schema.Requires "asset" → args.get? "asset" ≠ some (.str "")
  placeholder : schema.Requires "placeholder" → args.get? "placeholder" ≠ some (.str "")

/-- Whether what a schema requires of a path, a content, a placeholder and an asset is there, and a
text that says something. -/
structure Answered (schema : Json) (args : Fields) : Prop where
  path : schema.Requires "path" → ∃ path, args.get? "path" = some (.str path) ∧ Rooted path
  content : schema.Requires "content" → ∃ text, args.get? "content" = some (.str text)
  placeholder : schema.Requires "placeholder" →
    ∃ text, args.get? "placeholder" = some (.str text) ∧ text ≠ ""
  asset : schema.Requires "asset" → ∃ text, args.get? "asset" = some (.str text) ∧ text ≠ ""

theorem Answered.restrict {schema : Json} {args : Fields} (h : Answered schema args)
    (hschema : ∀ name, schema.Requires name → name ∈ schema.properties) :
    Answered schema (schema.restrict args) where
  path hname := by
    rw [Json.get?_restrict (hschema _ hname)]
    exact h.path hname
  content hname := by
    rw [Json.get?_restrict (hschema _ hname)]
    exact h.content hname
  placeholder hname := by
    rw [Json.get?_restrict (hschema _ hname)]
    exact h.placeholder hname
  asset hname := by
    rw [Json.get?_restrict (hschema _ hname)]
    exact h.asset hname

namespace Tool

variable {tool : Tool} {args : Fields} {edit : Edit} {name text path : String}
  {fault : ArgumentFault}

theorem pathArgument_eq_ok_iff :
    pathArgument args = .ok path ↔ args.get? "path" = some (.str path) ∧ Rooted path := by
  constructor
  · intro h
    have hrooted := rooted_of_pathArgument h
    unfold pathArgument at h
    split at h
    · next given hgiven =>
      split at h
      · cases h
        exact ⟨hgiven, hrooted⟩
      · cases h
    · cases h
  · rintro ⟨hgiven, hrooted⟩
    rw [pathArgument, hgiven]
    exact if_pos hrooted

theorem textArgument_eq_ok_iff :
    textArgument args name fault = .ok text ↔ args.get? name = some (.str text) := by
  constructor
  · intro h
    unfold textArgument at h
    split at h
    · next given hgiven =>
      cases h
      exact hgiven
    · cases h
  · intro hgiven
    rw [textArgument, hgiven]

theorem nonEmptyArgument_eq_ok_iff :
    nonEmptyArgument args name fault = .ok text ↔
      args.get? name = some (.str text) ∧ text ≠ "" := by
  constructor
  · intro h
    have htext := ne_empty_of_nonEmptyArgument h
    unfold nonEmptyArgument at h
    split at h
    · next given hgiven =>
      split at h
      · cases h
      · cases h
        exact ⟨hgiven, htext⟩
    · cases h
  · rintro ⟨hgiven, htext⟩
    rw [nonEmptyArgument, hgiven]
    exact if_neg htext

theorem exists_kindArgument (h : Definition.addDynamicContent.Takes args)
    (hlabel : args.get? "type" = some (.str text)) : ∃ kind, kindArgument args = .ok kind := by
  obtain ⟨p, hp, hname, hchoices⟩ : ∃ p ∈ Definition.addDynamicContent.parameters,
      p.name = "type" ∧ p.choices = Dynamic.all.map Dynamic.label :=
    ⟨_, .tail _ (.tail _ (.head _)), rfl, rfl⟩
  have hmem : text ∈ Dynamic.all.map Dynamic.label :=
    hchoices ▸ h.mem_choices hp (hchoices ▸ List.cons_ne_nil _ _) (hname ▸ hlabel)
  obtain ⟨kind, -, rfl⟩ := List.mem_map.1 hmem
  refine ⟨kind, ?_⟩
  have hkind : kindGiven args = .str kind.label := by rw [kindGiven, hlabel, Option.getD_some]
  rw [kindArgument, hkind]
  simp only [Json.text?, Option.bind_some, Dynamic.ofLabel?_label]

/-- Arguments that a tool is said to take, and that say something, it takes. -/
theorem exists_edit (h : tool.definition.Takes args)
    (hfilled : Filled tool.definition.schema args) : ∃ edit, tool.edit args = .ok edit := by
  have hrooted (hpath : "path" ∈ tool.definition.names)
      (hrequired : "path" ∈ tool.definition.required) : ∃ path, pathArgument args = .ok path := by
    obtain ⟨path, hgiven⟩ := h.exists_text hpath hrequired
    have hroot := hfilled.path (tool.definition.properties_schema ▸ hpath) path hgiven
    exact ⟨path, pathArgument_eq_ok_iff.2 ⟨hgiven, hroot⟩⟩
  cases tool with
  | createPage =>
    obtain ⟨path, hpath⟩ := hrooted (by decide) (by decide)
    obtain ⟨content, hgiven⟩ : ∃ s, args.get? "content" = some (.str s) :=
      h.exists_text (by decide) (by decide)
    have hcontent : textArgument args "content" .content = .ok content :=
      textArgument_eq_ok_iff.2 hgiven
    simp only [edit, hpath, hcontent]
    exact ⟨_, rfl⟩
  | addDynamicContent =>
    obtain ⟨path, hpath⟩ := hrooted (by decide) (by decide)
    obtain ⟨placeholder, hgiven⟩ : ∃ s, args.get? "placeholder" = some (.str s) :=
      h.exists_text (by decide) (by decide)
    have hplaceholder : nonEmptyArgument args "placeholder" .placeholder = .ok placeholder :=
      nonEmptyArgument_eq_ok_iff.2 ⟨hgiven, fun hempty =>
        hfilled.placeholder (Definition.requires_iff.2 (by decide)) (hempty ▸ hgiven)⟩
    obtain ⟨label, hlabel⟩ : ∃ s, args.get? "type" = some (.str s) :=
      h.exists_text (by decide) (by decide)
    obtain ⟨kind, hkind⟩ := exists_kindArgument h hlabel
    simp only [edit, hpath, hplaceholder, hkind]
    exact ⟨_, rfl⟩
  | addAsset =>
    obtain ⟨path, hpath⟩ := hrooted (by decide) (by decide)
    obtain ⟨asset, hgiven⟩ : ∃ s, args.get? "asset" = some (.str s) :=
      h.exists_text (by decide) (by decide)
    have hasset : nonEmptyArgument args "asset" .asset = .ok asset :=
      nonEmptyArgument_eq_ok_iff.2 ⟨hgiven, fun hempty =>
        hfilled.asset (Definition.requires_iff.2 (by decide)) (hempty ▸ hgiven)⟩
    have hshort : ¬(imageArgument args asset).Overlong := by
      rintro (halt | hclass | hwidth | hheight)
      · exact h.not_overlong _ halt
      · exact h.not_overlong _ hclass
      · exact h.not_overlong _ hwidth
      · exact h.not_overlong _ hheight
    exact ⟨_, edit_addAsset_eq hpath hasset hshort⟩
  | setLayout =>
    have hheader := Json.shownOrEmpty_eq (h.not_overlong "header_html")
    have hfooter := Json.shownOrEmpty_eq (h.not_overlong "footer_html")
    simp only [edit, htmlArgument, hheader, hfooter]
    exact ⟨_, rfl⟩

/-- What a tool is said to require, it asks for. -/
theorem Makes.answered (h : tool.Makes args edit) : Answered tool.definition.schema args := by
  have hrequires (name : String) (hname : tool.definition.schema.Requires name) :
      name ∈ tool.definition.required := Definition.requires_iff.1 hname
  cases edit with
  | content path content =>
    obtain ⟨rfl, hpath, hcontent⟩ := h
    exact
      { path := fun _ => ⟨path, pathArgument_eq_ok_iff.1 hpath⟩
        content := fun _ => ⟨content, textArgument_eq_ok_iff.1 hcontent⟩
        placeholder := fun hname => absurd (hrequires _ hname) (by decide)
        asset := fun hname => absurd (hrequires _ hname) (by decide) }
  | rule path rule =>
    obtain ⟨rfl, hpath, hplaceholder, -⟩ := h
    exact
      { path := fun _ => ⟨path, pathArgument_eq_ok_iff.1 hpath⟩
        content := fun hname => absurd (hrequires _ hname) (by decide)
        placeholder := fun _ => ⟨rule.placeholder, nonEmptyArgument_eq_ok_iff.1 hplaceholder⟩
        asset := fun hname => absurd (hrequires _ hname) (by decide) }
  | fragment path piece placement =>
    obtain ⟨rfl, hpath, -, asset, hasset, -⟩ := h
    exact
      { path := fun _ => ⟨path, pathArgument_eq_ok_iff.1 hpath⟩
        content := fun hname => absurd (hrequires _ hname) (by decide)
        placeholder := fun hname => absurd (hrequires _ hname) (by decide)
        asset := fun _ => ⟨asset, nonEmptyArgument_eq_ok_iff.1 hasset⟩ }
  | layout new =>
    obtain ⟨rfl, -, -⟩ := h
    exact
      { path := fun hname => absurd (hrequires _ hname) (by decide)
        content := fun hname => absurd (hrequires _ hname) (by decide)
        placeholder := fun hname => absurd (hrequires _ hname) (by decide)
        asset := fun hname => absurd (hrequires _ hname) (by decide) }

theorem mem_all (tool : Tool) : tool ∈ all := by
  cases tool <;> decide

theorem name_ne_empty (tool : Tool) : tool.name ≠ "" := by
  cases tool <;> decide

theorem nodup_names (tool : Tool) : tool.definition.names.Nodup := by
  cases tool <;> decide

theorem mem_names_of_required (tool : Tool) :
    ∀ name ∈ tool.definition.required, name ∈ tool.definition.names := by
  cases tool <;> decide

end Tool

namespace Registry

theorem get?_standard_eq_some_iff {name : String} {tool : Tool} :
    standard.get? name = some tool ↔ tool.name = name := by
  rw [Keyed.get?_eq_some_iff (by decide), standard, List.mem_map]
  constructor
  · rintro ⟨_, -, he⟩
    cases he
    rfl
  · rintro rfl
    exact ⟨tool, tool.mem_all, rfl⟩

theorem mem_definitions_standard {d : Definition} :
    d ∈ standard.definitions ↔ ∃ tool : Tool, tool.definition = d := by
  rw [definitions, standard, List.map_map, List.mem_map]
  exact ⟨fun ⟨tool, _, hd⟩ => ⟨tool, hd⟩, fun ⟨tool, hd⟩ => ⟨tool, tool.mem_all, hd⟩⟩

end Registry

namespace Interpreter

variable {interpreter : Interpreter}

theorem judge_standard (h : interpreter.registry = .standard) {tool : Tool} {given : Json}
    {args : Fields} {edit : Edit} (hargs : arguments interpreter.nesting given = .ok args)
    (hedit : tool.edit args = .ok edit) :
    interpreter.judge ⟨.str tool.name, given⟩ = .ok (.accepted edit) := by
  rw [judge, ToolCall.label, Json.text?, Option.getD_some, if_neg tool.name_ne_empty, h,
    Registry.get?_standard_eq_some_iff.2 rfl]
  simp only [hargs, hedit]

theorem exists_tool_of_judge (hstandard : interpreter.registry = .standard) {call : ToolCall}
    {edit : Edit} (h : interpreter.judge call = .ok (.accepted edit)) :
    ∃ (tool : Tool) (args : Fields), call.name = .str tool.name ∧
      arguments interpreter.nesting call.arguments = .ok args ∧ tool.Makes args edit := by
  obtain ⟨tool, args, htool, hargs, hmakes⟩ := requests_of_judge h
  rw [hstandard] at htool
  have hlabel : tool.name = call.label := Registry.get?_standard_eq_some_iff.1 htool
  refine ⟨tool, args, ?_, hargs, hmakes⟩
  rw [hlabel]
  rw [ToolCall.label] at hlabel ⊢
  cases hname : call.name with
  | str name => rfl
  | _ =>
    rw [hname] at hlabel
    exact absurd hlabel tool.name_ne_empty

/-- What a model is told of the tools is what they do. Arguments that are valid against the schema
of a tool, and that say something, it takes on every site; and of a call that is carried out, what
the schema requires of a path, a content, a placeholder and an asset is there, and a text. -/
theorem published_schemas_are_kept (hstandard : interpreter.registry = .standard) :
    (∀ d ∈ interpreter.registry.definitions, ∀ given args,
      arguments interpreter.nesting given = .ok args →
      Json.Conforms d.schema (.obj args) → Filled d.schema args →
        ∀ site, ∃ after,
          (interpreter.perform ⟨d.published "name", given⟩).run site = .ok none after) ∧
    ∀ call site after, (interpreter.perform call).run site = .ok none after →
      ∃ d ∈ interpreter.registry.definitions, call.name = d.published "name" ∧
        ∃ args, arguments interpreter.nesting call.arguments = .ok args ∧
          Answered d.schema (d.schema.restrict args) := by
  constructor
  · intro d hd given args hargs hconforms hfilled site
    rw [hstandard] at hd
    obtain ⟨tool, rfl⟩ := Registry.mem_definitions_standard.1 hd
    have htakes := (Definition.conforms_iff tool.nodup_names).1 hconforms
    obtain ⟨edit, hedit⟩ := Tool.exists_edit htakes hfilled
    have hjudge : interpreter.judge ⟨tool.definition.published "name", given⟩ = _ :=
      judge_standard hstandard hargs hedit
    rw [run_perform, hjudge]
    exact ⟨_, rfl⟩
  · intro call site after h
    rw [run_perform] at h
    split at h
    · next edit hjudge =>
      obtain ⟨tool, args, hname, hargs, hmakes⟩ := exists_tool_of_judge hstandard hjudge
      have hmem : tool.definition ∈ interpreter.registry.definitions := by
        rw [hstandard]
        exact Registry.mem_definitions_standard.2 ⟨tool, rfl⟩
      refine ⟨tool.definition, hmem, hname, args, hargs, ?_⟩
      refine hmakes.answered.restrict fun name hrequired => ?_
      rw [Definition.properties_schema]
      exact tool.mem_names_of_required name (Definition.requires_iff.1 hrequired)
    · cases h
    · cases h

/-- Arguments that a schema with choices asks for. -/
def clockArguments : Fields :=
  [("path", .str "/"), ("placeholder", .str "NOW"), ("type", .str "CURRENT_TIME")]

theorem conforms_clockArguments :
    Json.Conforms Definition.addDynamicContent.schema (.obj clockArguments) := by
  refine (Definition.conforms_iff Tool.addDynamicContent.nodup_names).2 ⟨by decide, by decide, ?_⟩
  intro p hp v hv
  obtain _ | ⟨_, _ | ⟨_, _ | ⟨_, hnone⟩⟩⟩ := hp
  · cases hv
    exact ⟨"/", rfl, by decide⟩
  · cases hv
    exact ⟨"NOW", rfl, by decide⟩
  · cases hv
    exact ⟨"CURRENT_TIME", rfl, by decide⟩
  · cases hnone

theorem published_schemas_are_kept_clock :
    (∀ site, ∃ after,
      (standard.perform ⟨.str "add_dynamic_content", .obj clockArguments⟩).run site =
        .ok none after) ∧
      ∃ d ∈ standard.registry.definitions, .str "add_dynamic_content" = d.published "name" ∧
        Answered d.schema (d.schema.restrict clockArguments) := by
  have hstandard : standard.registry = .standard := rfl
  obtain ⟨htaken, hanswered⟩ := published_schemas_are_kept hstandard
  have hmem : Definition.addDynamicContent ∈ standard.registry.definitions :=
    Registry.mem_definitions_standard.2 ⟨.addDynamicContent, rfl⟩
  have hfilled : Filled Definition.addDynamicContent.schema clockArguments := by
    refine ⟨fun _ path hpath => ?_, fun _ hasset => ?_, fun _ hplaceholder => ?_⟩
    · cases hpath
      rfl
    · cases hasset
    · exact absurd (Json.str.inj (Option.some.inj hplaceholder)) (by decide)
  have hcarried := htaken _ hmem (.obj clockArguments) _ rfl conforms_clockArguments hfilled
  obtain ⟨after, hafter⟩ := hcarried {}
  obtain ⟨d, hd, hname, args, hargs, hkept⟩ := hanswered _ _ _ hafter
  cases hargs
  exact ⟨hcarried, d, hd, hname, hkept⟩

end Interpreter

end Sitewright
