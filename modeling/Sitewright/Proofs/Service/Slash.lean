import Sitewright.Proofs.Service.Page

namespace Sitewright

variable {path : String} {table : RouteTable} {route other : Route} {service : Service}
  {framework : Framework} {target : Target}

/-- With a slash more a path loses this slash and all that it ended in before. -/
theorem trims_slash (h : Rooted path) : Trims (path ++ "/") (Text.withoutSlashes path) := by
  have hpos : 0 < path.length := by
    rw [← String.length_toList]
    exact List.length_pos_of_mem (List.mem_of_mem_head? h)
  have hlong : 1 < (path ++ "/").length := by
    rw [String.length_append]
    exact Nat.lt_add_of_pos_left hpos
  have hlast : (path ++ "/").toList.getLast? = some '/' := by
    rw [String.toList_append]
    exact List.getLast?_concat
  rw [← Text.withoutSlashes_slash]
  exact trims_withoutSlashes hlong hlast

/-- Where no page is at a path with a slash more, it leads where the path without its slashes does,
which is to the page of the path itself only if this has none. -/
theorem RouteTable.leadsTo_slash_iff (hpath : Rooted path) (hfree : path ++ "/" ∉ table.paths)
    (ho : other ∈ table.routes) :
    table.LeadsTo (path ++ "/") other ↔ other.path = Text.withoutSlashes path := by
  constructor
  · rintro (hsame | ⟨-, htrims⟩)
    · exact absurd (hsame ▸ List.mem_map_of_mem ho) hfree
    · rw [← htrims.withoutSlashes_eq, Text.withoutSlashes_slash]
  · intro hother
    rw [LeadsTo, hother]
    exact .inr ⟨hfree, trims_slash hpath⟩

namespace Service

/-- A request for the path of a page with a slash more. -/
theorem slash_more_is_answered (h : Reached service) (ht : service.routes = some table)
    (hr : route ∈ table.routes) (htarget : target.path = route.path ++ "/")
    (hfree : target.path ∉ table.paths) (hline : '\n' ∉ target.path.toList)
    (hshadow : ¬framework.Shadows target.path) (now : Moment) (files : Files) :
    let response := (service.respond framework "GET" target now files).response
    (route.path.toList.getLast? ≠ some '/' → Response.Shows 200 (route.render now) response) ∧
    (route.path.toList.getLast? = some '/' →
      (∀ other ∈ table.routes, other.path = Text.withoutSlashes route.path →
        other ≠ route ∧ Response.Shows 200 (other.render now) response) ∧
      (Text.withoutSlashes route.path ∉ table.paths →
        response = .ok ⟨404, .html "<h1>Not Found</h1>"⟩)) ∧
    ((∀ c ∈ route.path.toList, c = '/') →
      response = .ok ⟨404, .html "<h1>Not Found</h1>"⟩) := by
  intro response
  obtain ⟨hd, hrooted⟩ := h.routes ht
  have hpath : Rooted route.path := hrooted _ (List.mem_map_of_mem hr)
  obtain ⟨-, hfound, hmissing⟩ := respond_leadsTo hd ht hline hshadow now files
  rw [htarget] at hfree
  have hleads {other : Route} (ho : other ∈ table.routes) :
      table.LeadsTo target.path other ↔ other.path = Text.withoutSlashes route.path := by
    rw [htarget]
    exact RouteTable.leadsTo_slash_iff hpath hfree ho
  have hpage {other : Route} (ho : other ∈ table.routes)
      (hother : other.path = Text.withoutSlashes route.path) :
      Response.Shows 200 (other.render now) response := hfound other ho ((hleads ho).2 hother)
  have hnone (hstem : Text.withoutSlashes route.path ∉ table.paths) :
      response = .ok ⟨404, .html "<h1>Not Found</h1>"⟩ := by
    apply hmissing
    intro other ho hother
    apply hstem
    rw [← (hleads ho).1 hother]
    exact List.mem_map_of_mem ho
  refine ⟨?_, ?_, ?_⟩
  · intro hbare
    exact hpage hr (Text.withoutSlashes_eq_self hbare).symm
  · intro hlast
    refine ⟨?_, hnone⟩
    intro other ho hother
    refine ⟨?_, hpage ho hother⟩
    rintro rfl
    have hbare := (trims_slash hpath).bare
    rw [← hother] at hbare
    exact hbare hlast
  · intro hslashes
    apply hnone
    rw [Text.withoutSlashes_eq_empty hslashes]
    intro hempty
    cases hrooted "" hempty

/-- A service with a page at the root, and pages with and without a slash at the end. -/
def handbook : Service := paged ["/", "/about", "/docs", "/docs/", "/faq/"]

theorem slash_more_is_answered_handbook :
    let get (path : String) :=
      (handbook.respond {} "GET" ⟨path, []⟩ default Compiler.blankProject).response
    get "/about/" = .ok ⟨200, .html "/about"⟩ ∧ get "/docs//" = .ok ⟨200, .html "/docs"⟩ ∧
      get "/faq//" = .ok ⟨404, .html "<h1>Not Found</h1>"⟩ ∧
      get "//" = .ok ⟨404, .html "<h1>Not Found</h1>"⟩ := by
  intro get
  obtain ⟨table, htable, hroutes⟩ : ∃ table, handbook.routes = some table ∧
      table.routes =
        ["/", "/about", "/docs", "/docs/", "/faq/"].map fun path => ⟨path, path, [], {}⟩ :=
    ⟨_, rfl, rfl⟩
  have hpaths : table.paths = ["/", "/about", "/docs", "/docs/", "/faq/"] := by
    rw [RouteTable.paths, hroutes]
    rfl
  have hanswer (path : String) (target : Target) (htarget : target.path = path ++ "/")
      (hr : path ∈ ["/", "/about", "/docs", "/docs/", "/faq/"])
      (hfree : target.path ∉ ["/", "/about", "/docs", "/docs/", "/faq/"])
      (hline : '\n' ∉ target.path.toList) (hshadow : ¬Framework.Shadows {} target.path) :=
    slash_more_is_answered (reached_paged _) htable
      (hroutes ▸ List.mem_map_of_mem hr : (⟨path, path, [], {}⟩ : Route) ∈ _) htarget
      (hpaths ▸ hfree) hline hshadow default Compiler.blankProject
  dsimp only at hanswer
  obtain ⟨habout, -⟩ :=
    hanswer "/about" ⟨"/about/", []⟩ (by decide) (by decide) (by decide) (by decide) (by decide)
  obtain ⟨-, hdocs, -⟩ :=
    hanswer "/docs/" ⟨"/docs//", []⟩ (by decide) (by decide) (by decide) (by decide) (by decide)
  obtain ⟨-, hfaq, -⟩ :=
    hanswer "/faq/" ⟨"/faq//", []⟩ (by decide) (by decide) (by decide) (by decide) (by decide)
  obtain ⟨-, -, hroot⟩ :=
    hanswer "/" ⟨"//", []⟩ (by decide) (by decide) (by decide) (by decide) (by decide)
  have hother : (⟨"/docs", "/docs", [], {}⟩ : Route) ∈ table.routes := hroutes ▸ by decide
  have hslashes : ∀ c ∈ "/".toList, c = '/' := List.forall_mem_singleton.2 rfl
  refine ⟨shown_bare rfl (habout (by decide)), ?_, ?_, hroot hslashes⟩
  · exact shown_bare rfl ((hdocs (by decide)).1 _ hother (by decide)).2
  · exact (hfaq (by decide)).2 (hpaths ▸ by decide)

/-- With a second slash behind it a page is not found, nor is the one at the root; or the page is
found that has no slash at the end of its path. -/
theorem doubled_slash_is_missing :
    let get (path : String) :=
      (handbook.respond {} "GET" ⟨path, []⟩ default Compiler.blankProject).response
    Reached handbook ∧
      handbook.routes.map RouteTable.paths =
        some ["/", "/about", "/docs", "/docs/", "/faq/"] ∧
      (∀ path ∈ ["/faq//", "//", "/docs//"], '\n' ∉ path.toList ∧ ¬Framework.Shadows {} path) ∧
      (get "/faq/" = .ok ⟨200, .html "/faq/"⟩ ∧
        get "/faq//" = .ok ⟨404, .html "<h1>Not Found</h1>"⟩) ∧
      (get "/" = .ok ⟨200, .html "/"⟩ ∧ get "//" = .ok ⟨404, .html "<h1>Not Found</h1>"⟩) ∧
      (get "/docs/" = .ok ⟨200, .html "/docs/"⟩ ∧ get "/docs//" = .ok ⟨200, .html "/docs"⟩) := by
  exact ⟨reached_paged _, rfl, by decide, ⟨rfl, rfl⟩, ⟨rfl, rfl⟩, rfl, rfl⟩

end Service

end Sitewright
