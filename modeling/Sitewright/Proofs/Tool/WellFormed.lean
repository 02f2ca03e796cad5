import Sitewright.Proofs.Site.WellFormed
import Sitewright.Proofs.Tool.ClosedForm

namespace Sitewright

variable {tool : Tool} {args : Fields} {edit : Edit} {interpreter : Interpreter} {call : ToolCall}
  {calls : List ToolCall} {r : Replay}

namespace Tool

theorem rooted_of_pathArgument {path : String} (h : pathArgument args = .ok path) :
    Rooted path := by
  unfold pathArgument at h
  split at h
  · split at h
    · next hroot =>
      obtain rfl := Except.ok.inj h
      exact hroot
    · cases h
  · cases h

theorem ne_empty_of_nonEmptyArgument {name text : String} {fault : ArgumentFault}
    (h : nonEmptyArgument args name fault = .ok text) : text ≠ "" := by
  unfold nonEmptyArgument at h
  split at h
  · split at h
    · cases h
    · next hne =>
      obtain rfl := Except.ok.inj h
      exact hne
  · cases h

theorem Makes.wellFormed (h : tool.Makes args edit) : edit.WellFormed := by
  cases edit with
  | content path text =>
    obtain ⟨_, hpath, _⟩ := h
    exact ⟨fun _ he => Option.some.inj he ▸ rooted_of_pathArgument hpath, nofun⟩
  | rule path added =>
    obtain ⟨_, hpath, hplaceholder, _⟩ := h
    refine ⟨fun _ he => Option.some.inj he ▸ rooted_of_pathArgument hpath, ?_⟩
    intro rule hr
    obtain rfl := Option.some.inj hr
    refine ⟨ne_empty_of_nonEmptyArgument hplaceholder, ?_⟩
    cases added.kind
    rfl
  | fragment path piece placement =>
    obtain ⟨_, hpath, _⟩ := h
    exact ⟨fun _ he => Option.some.inj he ▸ rooted_of_pathArgument hpath, nofun⟩
  | layout new => exact ⟨nofun, nofun⟩

/-- Only the tool for the layout makes an edit that is of no page. -/
theorem Makes.path?_eq_none_iff (h : tool.Makes args edit) :
    edit.path? = none ↔ tool = setLayout := by
  cases edit with
  | layout new => exact iff_of_true rfl h.1
  | content _ _ | rule _ _ | fragment _ _ _ =>
    obtain ⟨rfl, _⟩ := h
    exact iff_of_false nofun nofun

end Tool

namespace Interpreter

/-- Whether a call is carried out, by a tool for pages. -/
def MakesPage (interpreter : Interpreter) (call : ToolCall) : Prop :=
  ∃ tool edit, interpreter.registry.get? call.label = some tool ∧ tool ≠ .setLayout ∧
    interpreter.judge call = .ok (.accepted edit)

theorem wellFormed_of_judge (h : interpreter.judge call = .ok (.accepted edit)) :
    edit.WellFormed := by
  obtain ⟨_, _, _, _, hmakes⟩ := requests_of_judge h
  exact hmakes.wellFormed

theorem path?_eq_none_iff (h : interpreter.judge call = .ok (.accepted edit)) :
    edit.path? = none ↔ ¬interpreter.MakesPage call := by
  obtain ⟨tool, args, htool, _, hmakes⟩ := requests_of_judge h
  rw [hmakes.path?_eq_none_iff]
  constructor
  · rintro rfl ⟨other, _, hother, hne, _⟩
    exact hne (Option.some.inj (hother.symm.trans htool))
  · intro hnot
    by_contra hne
    exact hnot ⟨tool, edit, htool, hne, h⟩

/-- A site has no pages just when no tool for pages was carried out. -/
theorem pages_eq_nil_iff (interpreter : Interpreter) (calls : List ToolCall) :
    (Site.applyAll {} (calls.filterMap interpreter.edit?)).pages = [] ↔
      ∀ call ∈ calls, ¬interpreter.MakesPage call := by
  rw [Site.pages_applyAll_eq_nil_iff]
  constructor
  · rintro h call hcall ⟨tool, edit, htool, hne, hj⟩
    have hnone := h edit (List.mem_filterMap.2 ⟨call, hcall, edit?_eq_some_iff.2 hj⟩)
    exact (path?_eq_none_iff hj).1 hnone ⟨tool, edit, htool, hne, hj⟩
  · intro h edit hedit
    obtain ⟨call, hcall, he⟩ := List.mem_filterMap.1 hedit
    exact (path?_eq_none_iff (edit?_eq_some_iff.1 he)).2 (h call hcall)

theorem wellFormed_applyAll (interpreter : Interpreter) (calls : List ToolCall) :
    (Site.applyAll {} (calls.filterMap interpreter.edit?)).WellFormed := by
  apply Site.wellFormed_empty.applyAll
  intro edit hedit
  obtain ⟨call, _, he⟩ := List.mem_filterMap.1 hedit
  exact wellFormed_of_judge (edit?_eq_some_iff.1 he)

theorem wellFormed_of_replay (h : interpreter.replay calls = .ok r) : r.site.WellFormed := by
  rw [replay_eq h]
  exact interpreter.wellFormed_applyAll calls

/-- Whatever calls a replay is given, the site that comes of it has each page once, under the path
that the page bears, and every path begins with a slash; a rule has something to replace, and the
time to put there. The routes are its pages in the order in which they came up. A site without
pages has one route that says so, and no other site has that one unless its one page looks the
same. -/
theorem replay_makes_wellFormed_site (h : interpreter.replay calls = .ok r) :
    let edits := calls.filterMap interpreter.edit?
    let binder := Binder.applyAll {} edits
    let table := r.site.routeTable
    (binder.site = r.site ∧ ∀ path sheet, (path, sheet) ∈ binder.sheets → sheet.path = path) ∧
    r.site.WellFormed ∧
    table.routes ≠ [] ∧ table.paths.Nodup ∧ (∀ path ∈ table.paths, Rooted path) ∧
    (r.site.pages ≠ [] →
      table.paths = r.site.pages.keys ∧ table.paths = (edits.filterMap Edit.path?).eraseDups ∧
      table.routes = r.site.pages.map fun entry =>
        ⟨entry.1, entry.2.content, entry.2.rules, r.site.layout⟩) ∧
    ((∀ call ∈ calls, ¬interpreter.MakesPage call) ↔ r.site.pages = []) ∧
    (table = ⟨[⟨"/", diagnosticContent, [], r.site.layout⟩]⟩ ↔
      (∀ call ∈ calls, ¬interpreter.MakesPage call) ∨
        r.site.pages = [("/", ⟨diagnosticContent, []⟩)]) := by
  intro edits binder table
  have hsite : r.site = Site.applyAll {} edits := by rw [replay_eq h, outcome]
  have hwell := wellFormed_of_replay h
  have hpages : (∀ call ∈ calls, ¬interpreter.MakesPage call) ↔ r.site.pages = [] := by
    rw [hsite, pages_eq_nil_iff]
  obtain ⟨hdistinct, hrooted⟩ := hwell.routeTable
  refine ⟨⟨?_, Binder.filed_applyAll edits⟩, hwell, r.site.routes_routeTable_ne_nil, hdistinct,
    hrooted, ?_, hpages, ?_⟩
  · rw [Binder.site_applyAll, hsite]
    rfl
  · intro hsome
    have hpaths := Site.paths_routeTable hsome
    refine ⟨hpaths, hpaths.trans ?_, ?_⟩
    · rw [hsite, Site.keys_applyAll]
    · exact congrArg RouteTable.routes (Site.routeTable_of_pages_ne_nil hsome)
  · rw [hpages]
    exact Site.routeTable_eq_diagnostic_iff

theorem replay_makes_wellFormed_site_rewritten_page :
    ∃ r, standard.replay rewrittenPage = .ok r ∧ r.site.WellFormed ∧
      r.site.routeTable.paths.Nodup ∧ r.site.pages ≠ [] ∧
      r.site.routeTable ≠ ⟨[⟨"/", diagnosticContent, [], r.site.layout⟩]⟩ := by
  have hreplay : standard.replay rewrittenPage = .ok
      { site :=
          { pages := [("/", ⟨"Now is NOW", [⟨"NOW", .currentTime⟩]⟩)]
            layout := ⟨"<body>", ""⟩ }
        applied := 4
        skipped := [⟨2, "", "tool call has no name"⟩] } := rfl
  obtain ⟨-, hwell, -, hdistinct, -, -, hpages, htable⟩ := replay_makes_wellFormed_site hreplay
  refine ⟨_, hreplay, hwell, hdistinct, List.cons_ne_nil _ _, ?_⟩
  rw [Ne, htable, hpages]
  decide

/-- A page that looks like the one that is shown for lack of pages. -/
def lookAlike : List ToolCall :=
  [⟨.str "create_page", .obj [("path", .str "/"), ("content", .str diagnosticContent)]⟩]

/-- The routes of a site that has a page can be those of a site that has none. -/
theorem lookAlike_is_diagnostic :
    ¬∀ calls r, standard.replay calls = .ok r →
      (r.site.routeTable = ⟨[⟨"/", diagnosticContent, [], r.site.layout⟩]⟩ ↔
        ∀ call ∈ calls, ¬standard.MakesPage call) := by
  intro h
  have hreplay : standard.replay lookAlike = .ok
      { site := { pages := [("/", ⟨diagnosticContent, []⟩)] }, applied := 1, skipped := [] } := rfl
  have hnone := (h lookAlike _ hreplay).1 rfl _ List.mem_cons_self
  exact hnone ⟨.createPage, .content "/" diagnosticContent, rfl, by decide, rfl⟩

end Interpreter

end Sitewright
