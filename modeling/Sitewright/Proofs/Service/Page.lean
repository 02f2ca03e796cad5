import Sitewright.Proofs.Build.Result
import Sitewright.Proofs.Keyed
import Sitewright.Proofs.Service.History
import Sitewright.Proofs.Service.Response
import Sitewright.Proofs.Service.Route
import Sitewright.Proofs.Service.Target
import Sitewright.Proofs.Tool.WellFormed

namespace Sitewright

variable {path : String} {service : Service} {framework : Framework} {table : RouteTable}
  {result : BuildResult}

/-- The result of a build with another site instead of its own. -/
def BuildResult.withSite (result : BuildResult) (site : Site) : BuildResult :=
  { result with replay := { result.replay with site } }

namespace Service

/-- The services that there can be: new ones, and what builds make of them, whoever gives the
plans for these. -/
inductive Reached : Service → Prop
  | new (compiler : Compiler) : Reached { compiler }
  | rebuild {service : Service} (force : Bool) (now : Moment) (files : Files)
      (h : Reached service) : Reached (service.rebuild force now files).2
  | client {service : Service} (client : Client) (h : Reached service) :
      Reached { service with compiler := { service.compiler with client } }

theorem Reached.exists_serves (h : Reached service) : ∃ good, service.Serves good := by
  induction h with
  | new compiler => exact ⟨none, rfl, rfl, rfl⟩
  | @rebuild service force now files _ ih =>
    rw [rebuild_eq]
    cases (service.compiler.build force now files).result with
    | ok result => exact ⟨_, serves_settled_ok service now result⟩
    | error e =>
      obtain ⟨good, hgood⟩ := ih
      exact ⟨good, hgood.settled_error now e.message⟩
  | client _ _ ih =>
    obtain ⟨good, hgood⟩ := ih
    exact ⟨good, hgood.routes, hgood.lastResult, hgood.lastBuiltAt⟩

/-- A table that is served is the one of the last build that went well. -/
theorem Reached.exists_result (h : Reached service) (ht : service.routes = some table) :
    ∃ result, service.lastResult = some result ∧ result.routes = table := by
  obtain ⟨good, hgood⟩ := h.exists_serves
  rw [hgood.routes, Option.map_eq_some_iff] at ht
  obtain ⟨served, rfl, htable⟩ := ht
  exact ⟨served.result, hgood.lastResult, htable⟩

/-- What is served has come of a build with these tools and settings, whoever gave the plan. -/
theorem Reached.exists_build (h : Reached service) (hr : service.lastResult = some result) :
    ∃ (compiler : Compiler) (force : Bool) (now : Moment) (files : Files),
      compiler.interpreter = service.compiler.interpreter ∧
        compiler.settings = service.compiler.settings ∧
        (compiler.build force now files).result = .ok result := by
  induction h with
  | new compiler => cases hr
  | @rebuild service force now files _ ih =>
    rw [rebuild_eq] at hr ⊢
    cases hbuild : (service.compiler.build force now files).result with
    | ok result =>
      rw [hbuild] at hr
      obtain rfl := Option.some.inj hr
      exact ⟨service.compiler, force, now, files, rfl, rfl, hbuild⟩
    | error e =>
      rw [hbuild] at hr
      exact ih hr
  | client _ _ ih => exact ih hr

/-- What is served has come of carrying out the calls of its plan. -/
theorem Reached.replay (h : Reached service) (hr : service.lastResult = some result) :
    service.compiler.interpreter.replay result.plan.calls = .ok result.replay := by
  obtain ⟨compiler, force, now, files, hinterpreter, -, hbuild⟩ := h.exists_build hr
  rw [← hinterpreter]
  exact (Compiler.planFor_of_build hbuild).2

/-- A request leaves such a service behind, whatever it asks for. -/
theorem Reached.respond (h : Reached service) (framework : Framework) (method : String)
    (target : Target) (now : Moment) (files : Files) :
    Reached (service.respond framework method target now files).service := by
  -- Only where a build is asked for is the service that is left another one.
  rw [Service.respond]
  split
  · exact h
  rw [answer]
  split
  · exact h
  split
  · exact h
  split
  · split <;> exact h
  · split <;> exact h
  · split
    · split
      · exact h.rebuild false now files
      · exact h.rebuild _ now files
      · exact h
    · split <;> exact h
  · split <;> exact h

theorem Reached.routes (h : Reached service) (ht : service.routes = some table) :
    table.paths.Nodup ∧ ∀ path ∈ table.paths, Rooted path := by
  obtain ⟨result, hr, rfl⟩ := h.exists_result ht
  exact (Interpreter.wellFormed_of_replay (h.replay hr)).routeTable

end Service

/-- Whether something other than a page is at a path. -/
def Framework.Shadows (framework : Framework) (path : String) : Prop :=
  path ∈ framework.pages.keys ∨ assetsPath.toList <+: path.toList ∨
    path ∈ ["/api/v1/health", "/api/v1/routes", "/api/v1/build"]

instance (framework : Framework) (path : String) : Decidable (framework.Shadows path) :=
  inferInstanceAs (Decidable (_ ∨ _ ∨ _))

theorem Target.below?_eq_none_iff {target : Target} {start : String} :
    target.below? start = none ↔ ¬start.toList <+: target.path.toList := by
  rw [below?, ← List.isPrefixOf_iff_prefix]
  split
  · next h => exact iff_of_false nofun fun hnot => hnot h
  · next h => exact iff_of_true rfl h

namespace Service

variable {target : Target} {site : Site} {method : String} {now : Moment} {files : Files}

theorem endOf_of_oneLine (h : '\n' ∉ path.toList) : endOf path = path :=
  if_neg fun hlast => h (List.mem_of_getLast? hlast)

theorem respond_eq_answer (service : Service) (hline : '\n' ∉ target.path.toList)
    (hm : target.path ∉ framework.pages.keys) (method : String) (now : Moment) (files : Files) :
    service.respond framework method target now files =
      service.answer framework method target now files := by
  rw [respond, endOf_of_oneLine hline, Keyed.get?_eq_none_iff.2 hm]

theorem respond_page (service : Service) (hline : '\n' ∉ target.path.toList)
    (hs : ¬framework.Shadows target.path) (now : Moment) (files : Files) :
    service.respond framework "GET" target now files =
      { response := service.pageResponse target.path now, service, files } := by
  obtain ⟨hown, hs⟩ := not_or.1 hs
  obtain ⟨hassets, hends⟩ := not_or.1 hs
  have hcontains : ¬target.path.toList.contains '\n' = true :=
    fun h => hline (List.contains_iff_mem.1 h)
  rw [respond_eq_answer service hline hown, answer, endOf_of_oneLine hline,
    if_neg hcontains, Target.below?_eq_none_iff.2 hassets]
  dsimp only
  split
  · next heq => exact absurd (heq ▸ .head _) hends
  · next heq => exact absurd (heq ▸ .tail _ (.head _)) hends
  · next heq => exact absurd (heq ▸ .tail _ (.tail _ (.head _))) hends
  · rfl

/-- A service that serves another site instead of its own. -/
def withSite (service : Service) (site : Site) : Service :=
  { service with
    routes := service.routes.map fun _ => site.routeTable
    lastResult := service.lastResult.map (·.withSite site) }

theorem buildResponse_withSite (service : Service) (site : Site) (force : Bool) (now : Moment)
    (files : Files) :
    ((service.withSite site).buildResponse force now files).response =
      (service.buildResponse force now files).response := by
  have hresult (service : Service) :
      (service.rebuild force now files).1.result =
        (service.compiler.build force now files).result := result_reported _
  unfold buildResponse
  dsimp only
  rw [hresult, hresult, rebuild_eq, rebuild_eq]
  dsimp only [withSite]
  cases (service.compiler.build force now files).result with
  | ok result => rfl
  | error e => rfl

theorem routesResponse_withSite (ht : service.routes = some table)
    (hp : site.routeTable.paths = table.paths) :
    (service.withSite site).routesResponse = service.routesResponse := by
  rw [routesResponse, routesResponse, withSite, ht]
  dsimp only [Option.map_some, Option.getD_some]
  rw [hp]

theorem infoResponse_withSite (hr : service.lastResult = some result)
    (hp : site.routeTable.paths = result.routes.paths) :
    (service.withSite site).infoResponse = service.infoResponse := by
  have hpaths : (result.withSite site).routes.paths = result.routes.paths := hp
  have htexts : (service.withSite site).texts (result.withSite site) = service.texts result := by
    rw [texts, texts, hpaths]
    rfl
  have hresult : (service.withSite site).lastResult = some (result.withSite site) :=
    congrArg (Option.map (BuildResult.withSite · site)) hr
  rw [infoResponse, infoResponse, info, info, hresult, hr]
  dsimp only
  rw [htexts, hpaths]
  rfl

theorem healthJson_withSite (service : Service) (site : Site) :
    (service.withSite site).healthJson = service.healthJson := by
  rw [healthJson, healthJson, isBuilt, isBuilt, withSite, Option.isSome_map]

theorem mem_endpoints_of_shadows (h : framework.Shadows path)
    (hm : framework.pages.get? (endOf path) = none) (ha : ¬assetsPath.toList <+: path.toList) :
    path ∈ ["/api/v1/health", "/api/v1/routes", "/api/v1/build"] := by
  obtain hown | hassets | hends := h
  · rw [endOf_of_oneLine (framework.oneLine path hown)] at hm
    exact absurd hown (Keyed.get?_eq_none_iff.1 hm)
  · exact absurd hassets ha
  · exact hends

/-- Where something shadows the pages, another site makes no difference, apart from the answers
that list its paths. -/
theorem respond_withSite (hr : service.lastResult = some result)
    (ht : service.routes = some result.routes) (hshadows : framework.Shadows target.path)
    (hp : site.routeTable.paths = result.routes.paths ∨
      ¬(method = "GET" ∧ target.path ∈ ["/api/v1/routes", "/api/v1/build"]))
    (now : Moment) (files : Files) :
    ((service.withSite site).respond framework method target now files).response =
      (service.respond framework method target now files).response := by
  rw [respond, respond]
  cases hget : framework.pages.get? (endOf target.path) with
  | some page => rfl
  | none =>
    dsimp only
    rw [answer, answer]
    split
    · rfl
    cases hbelow : target.below? assetsPath with
    | some names => rfl
    | none =>
      have hends := mem_endpoints_of_shadows hshadows hget (Target.below?_eq_none_iff.1 hbelow)
      have hline : ∀ path ∈ ["/api/v1/health", "/api/v1/routes", "/api/v1/build"],
          '\n' ∉ path.toList := by decide
      have hlisted (hget : method = "GET")
          (hpath : target.path ∈ ["/api/v1/routes", "/api/v1/build"]) :
          site.routeTable.paths = result.routes.paths :=
        hp.resolve_right fun h => h ⟨hget, hpath⟩
      rw [endOf_of_oneLine (hline _ hends)]
      dsimp only
      split
      · rw [healthJson_withSite]
        split <;> rfl
      · next hpath =>
        split
        · next h => rw [routesResponse_withSite ht (hlisted h (hpath ▸ .head _))]
        · rfl
      · next hpath =>
        split
        · split
          · exact buildResponse_withSite service site false now files
          · exact buildResponse_withSite service site _ now files
          · rfl
        · split
          · next h => rw [infoResponse_withSite hr (hlisted h (hpath ▸ .tail _ (.head _)))]
          · rfl
      · next hhealth hroutes hbuild =>
        simp only [List.mem_cons, List.not_mem_nil, or_false] at hends
        obtain h | h | h := hends
        · exact absurd h hhealth
        · exact absurd h hroutes
        · exact absurd h hbuild

theorem respond_routes (service : Service) (hpath : target.path = "/api/v1/routes")
    (hm : "/api/v1/routes" ∉ framework.pages.keys) (now : Moment) (files : Files) :
    (service.respond framework "GET" target now files).response = service.routesResponse := by
  have hbelow : target.below? assetsPath = none := by
    rw [Target.below?_eq_none_iff, hpath]
    decide
  have hline : '\n' ∉ target.path.toList := by
    rw [hpath]
    decide
  rw [respond_eq_answer service hline (hpath ▸ hm), answer, hpath, endOf_of_oneLine (by decide),
    hbelow]
  dsimp only
  rw [if_neg (by decide), if_pos rfl]
  rfl

/-- Whether a response lists the paths of a table. It breaks off where there are no bytes for one
of them. -/
inductive Lists (table : RouteTable) : Except RequestError Response → Prop
  | paths (h : ∀ path ∈ table.paths, Text.Codec.utf8.Writes path.toList) :
      Lists table (.ok ⟨200, .json (.obj
        [("routes", .arr (table.paths.map .str)), ("count", .int table.paths.length)])⟩)
  | broken {path : String} {e : ValidationError} (hp : path ∈ table.paths)
      (h : ¬Text.Codec.utf8.Writes path.toList) : Lists table (.error (.untold e))

theorem lists_routesResponse (ht : service.routes = some table) :
    Lists table service.routesResponse := by
  rw [routesResponse, ht]
  dsimp only [Option.map_some, Option.getD_some]
  obtain ⟨htold, hcheck⟩ | ⟨hnot, e, hcheck⟩ :=
    Validation.check_cases "RoutesResponse" (Validation.numbered "routes" table.paths)
  · rw [hcheck]
    exact .paths (Validation.forall_mem_numbered.1 htold)
  · rw [hcheck]
    rw [Validation.forall_mem_numbered] at hnot
    simp only [Classical.not_forall] at hnot
    obtain ⟨path, hpath, hlone⟩ := hnot
    exact .broken hpath hlone

/-- What a request for a page is answered, in terms of the routes that the path may lead to. -/
theorem respond_leadsTo (hd : table.paths.Nodup) (ht : service.routes = some table)
    (hline : '\n' ∉ target.path.toList) (hfree : ¬framework.Shadows target.path) (now : Moment)
    (files : Files) :
    let answer := service.respond framework "GET" target now files
    (answer.service = service ∧ answer.files = files ∧ answer.sent = []) ∧
      (∀ route ∈ table.routes, table.LeadsTo target.path route →
        Response.Shows 200 (route.render now) answer.response) ∧
      ((∀ route ∈ table.routes, ¬table.LeadsTo target.path route) →
        answer.response = .ok ⟨404, .html "<h1>Not Found</h1>"⟩) := by
  dsimp only
  rw [respond_page service hline hfree]
  refine ⟨⟨rfl, rfl, rfl⟩, ?_, ?_⟩
  · intro route hr hleads
    rw [pageResponse, ht]
    dsimp only
    rw [(findRoute_eq_some_iff hd).2 ⟨hr, hleads⟩]
    exact Response.shows_html 200 (route.render now)
  · intro hnone
    have hfind : findRoute table target.path = none := by
      rw [Option.eq_none_iff_forall_ne_some]
      intro route hroute
      obtain ⟨hr, hleads⟩ := (findRoute_eq_some_iff hd).1 hroute
      exact hnone route hr hleads
    rw [pageResponse, ht]
    dsimp only
    rw [hfind]
    rfl

/-- Whatever a service has built: where nothing shadows the pages, a request for a path of one line
gets the page of this path, else the one of the path without the slashes at its end, else it is
told that there is none. So each such path that is listed is reached by all of its addresses, and
it has one. Where something shadows the pages, they make no difference to the answers, apart from
those that list their paths. Only a page that has half of a character breaks its request off, and
a path that has one breaks off the request for the paths. -/
theorem pages_answered_from_table (h : Reached service) (ht : service.routes = some table)
    (framework : Framework) :
    (∀ target now files, '\n' ∉ target.path.toList → ¬framework.Shadows target.path →
      let answer := service.respond framework "GET" target now files
      (answer.service = service ∧ answer.files = files ∧ answer.sent = []) ∧
        (∀ route ∈ table.routes, table.LeadsTo target.path route →
          Response.Shows 200 (route.render now) answer.response) ∧
        ((∀ route ∈ table.routes, ¬table.LeadsTo target.path route) →
          answer.response = .ok ⟨404, .html "<h1>Not Found</h1>"⟩)) ∧
    (∀ target now files, target.path = "/api/v1/routes" →
      "/api/v1/routes" ∉ framework.pages.keys →
      Lists table (service.respond framework "GET" target now files).response) ∧
    (∀ path ∈ table.paths, '\n' ∉ path.toList → Text.Codec.utf8.Writes path.toList →
      ¬framework.Shadows path → Target.Addresses (Target.escapeAll path.toList.tail) path ∧
        ∃ route ∈ table.routes, route.path = path ∧
          (framework.ReadsAddresses → ∀ raw tail now files, Target.Addresses raw path →
            Target.FollowsPath tail →
            let target := framework.target (String.ofList ('/' :: raw ++ tail))
            Response.Shows 200 (route.render now)
              (service.respond framework "GET" target now files).response)) ∧
    ∀ site method target now files, framework.Shadows target.path →
      (site.routeTable.paths = table.paths ∨
        ¬(method = "GET" ∧ target.path ∈ ["/api/v1/routes", "/api/v1/build"])) →
      ((service.withSite site).respond framework method target now files).response =
        (service.respond framework method target now files).response := by
  obtain ⟨hd, hrooted⟩ := h.routes ht
  refine ⟨?_, ?_, ?_, ?_⟩
  · intro target now files hline hfree
    exact respond_leadsTo hd ht hline hfree now files
  · intro target now files hpath hm
    rw [respond_routes service hpath hm]
    exact lists_routesResponse ht
  · intro path hlisted hline _ hfree
    refine ⟨Target.addresses_escapeAll (hrooted path hlisted), ?_⟩
    obtain ⟨route, hr, hpath⟩ := List.mem_map.1 hlisted
    refine ⟨route, hr, hpath, ?_⟩
    intro hreads raw tail now files haddress htail
    have htarget := hreads raw tail path haddress htail
    obtain ⟨-, hpage, -⟩ :=
      respond_leadsTo hd ht (htarget ▸ hline) (htarget ▸ hfree) now files
    exact hpage route hr (.inl (hpath.trans htarget.symm))
  · intro site method target now files hshadows hp
    obtain ⟨result, hr, rfl⟩ := h.exists_result ht
    exact respond_withSite hr ht hshadows hp now files

theorem render_bare (path : String) (now : Moment) :
    Route.render ⟨path, path, [], {}⟩ now = path := by
  have hbare : Layout.isEmpty {} = true := rfl
  rw [Route.render, Layout.wrap, if_pos hbare]
  exact String.ofList_toList

theorem shown_bare {response : Except RequestError Response}
    (hw : Text.Codec.utf8.unencodable? path.toList = none)
    (h : Response.Shows 200 (Route.render ⟨path, path, [], {}⟩ now) response) :
    response = .ok ⟨200, .html path⟩ := by
  rw [render_bare] at h
  exact h.eq_page (Text.Codec.unencodable?_eq_none_iff.1 hw)

/-- Calls for pages at these paths, each of which shows its path. -/
def pageCalls (paths : List String) : List ToolCall :=
  paths.map fun path => ⟨.str "create_page", .obj [("path", .str path), ("content", .str path)]⟩

/-- A service that has built such pages. -/
def paged (paths : List String) : Service :=
  let compiler : Compiler :=
    { settings := .standard [], client := .own fun _ => .ok (pageCalls paths) }
  (rebuild { compiler } false default Compiler.blankProject).2

theorem reached_paged (paths : List String) : Reached (paged paths) := (Reached.new _).rebuild _ _ _

/-- Pages at a path and at the same with a slash, at one in another script, and at one among the
assets. -/
def several : Service := paged ["/news", "/news/", "/новости", "/assets/logo"]

theorem pages_answered_from_table_several :
    let get (service : Service) (target : Target) :=
      (service.respond {} "GET" target default Compiler.blankProject).response
    get several ⟨"/news/", []⟩ = .ok ⟨200, .html "/news/"⟩ ∧
      get several ⟨"/новости//", []⟩ = .ok ⟨200, .html "/новости"⟩ ∧
      get several ⟨"/", []⟩ = .ok ⟨404, .html "<h1>Not Found</h1>"⟩ ∧
      get several (.ofUrl "/%d0%bd%d0%be%d0%b2%d0%be%d1%81%d1%82%d0%b8?page=2") =
        .ok ⟨200, .html "/новости"⟩ ∧
      get (several.withSite {}) ⟨"/assets/logo", []⟩ = get several ⟨"/assets/logo", []⟩ := by
  intro get
  obtain ⟨table, htable, hroutes⟩ : ∃ table, several.routes = some table ∧
      table.routes =
        ["/news", "/news/", "/новости", "/assets/logo"].map fun path => ⟨path, path, [], {}⟩ :=
    ⟨_, rfl, rfl⟩
  have hpaths : table.paths = ["/news", "/news/", "/новости", "/assets/logo"] := by
    rw [RouteTable.paths, hroutes]
    rfl
  have hfree (path : String) (h : ¬assetsPath.toList <+: path.toList)
      (he : path ∉ ["/api/v1/health", "/api/v1/routes", "/api/v1/build"]) :
      ¬Framework.Shadows {} path := by
    rintro (hm | ha | hends)
    · cases hm
    · exact h ha
    · exact he hends
  have htrims : Trims "/новости//" "/новости" := ⟨by decide, ⟨1, rfl⟩, by decide⟩
  obtain ⟨hpages, -, hlisted, hshadowed⟩ :=
    pages_answered_from_table (reached_paged _) htable {}
  obtain ⟨-, hslash, -⟩ := hpages ⟨"/news/", []⟩ default Compiler.blankProject (by decide)
    (hfree _ (by decide) (by decide))
  obtain ⟨-, htrimmed, -⟩ := hpages ⟨"/новости//", []⟩ default Compiler.blankProject (by decide)
    (hfree _ (by decide) (by decide))
  obtain ⟨-, -, hnone⟩ := hpages ⟨"/", []⟩ default Compiler.blankProject (by decide)
    (hfree _ (by decide) (by decide))
  obtain ⟨haddress, route, hr, hpath, hescaped⟩ := hlisted "/новости" (hpaths ▸ by decide)
    (by decide) (Text.Codec.unencodable?_eq_none_iff.1 rfl) (hfree _ (by decide) (by decide))
  refine ⟨shown_bare rfl (hslash _ (hroutes ▸ by decide) (.inl rfl)),
    shown_bare rfl (htrimmed _ (hroutes ▸ by decide) (.inr ⟨hpaths ▸ by decide, htrims⟩)),
    ?_, ?_, ?_⟩
  · apply hnone
    intro other hother hleads
    obtain hroot | ⟨-, hlong⟩ := hleads
    · have hmem : other.path ∈ table.paths := List.mem_map_of_mem hother
      rw [hroot, hpaths] at hmem
      revert hmem
      decide
    · exact absurd hlong.long (by decide)
  · have htail : Target.FollowsPath "?page=2".toList := by
      intro c hc
      exact .inl (Option.some.inj hc).symm
    have hurl : String.ofList
        ('/' :: Target.escapeAll "/новости".toList.tail ++ "?page=2".toList) =
          "/%d0%bd%d0%be%d0%b2%d0%be%d1%81%d1%82%d0%b8?page=2" := by decide +kernel
    obtain rfl : route = ⟨"/новости", "/новости", [], {}⟩ := by
      rw [hroutes] at hr
      obtain ⟨path, -, rfl⟩ := List.mem_map.1 hr
      obtain rfl : path = "/новости" := hpath
      rfl
    have hanswer := hescaped Framework.readsAddresses_ofUrl
      (Target.escapeAll "/новости".toList.tail) "?page=2".toList default
      Compiler.blankProject haddress htail
    dsimp only at hanswer
    rw [hurl] at hanswer
    exact shown_bare rfl hanswer
  · exact hshadowed {} "GET" ⟨"/assets/logo", []⟩ default Compiler.blankProject
      (.inr (.inl (by decide))) (.inr (by decide))

/-- A surrogate that stands alone, for which there are no bytes. -/
def surrogate : Char := Text.Utf16.lone 0xd800

/-- A service that has built a page of such a surrogate. -/
def torn : Service :=
  let calls : List ToolCall :=
    [⟨.str "create_page",
      .obj [("path", .str "/"), ("content", .str (String.ofList [surrogate]))]⟩]
  (rebuild { compiler := { settings := .standard [], client := .own fun _ => .ok calls } }
    false default Compiler.blankProject).2

theorem torn_page_is_not_shown :
    Reached torn ∧
      torn.routes = some ⟨[⟨"/", String.ofList [surrogate], [], {}⟩]⟩ ∧
      ¬Framework.Shadows {} "/" ∧
      (torn.respond {} "GET" ⟨"/", []⟩ default Compiler.blankProject).response =
        .error (.unencodable ⟨.utf8, surrogate, 0, 1⟩) :=
  ⟨(Reached.new _).rebuild _ _ _, rfl, by decide, rfl⟩

end Service

end Sitewright
