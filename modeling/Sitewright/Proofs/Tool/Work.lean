import Sitewright.Proofs.Keyed
import Sitewright.Proofs.Tool.ClosedForm

namespace Sitewright

/-- Something that is done to a site. What has been done by the time it fails is not undone. -/
abbrev Work (ε α : Type) := EStateM ε Site α

namespace Work

/-- Takes the page at a path, a blank one that joins the site if there is none, and writes what
becomes of it. -/
def onPage {ε : Type} (path : String) (f : Page → Page) : Work ε Unit := do
  modify (Site.ensurePage path)
  let page := ((← get).page? path).getD {}
  modify (Site.alterPage path fun _ => f page)

theorem run_onPage {ε : Type} (path : String) (f : Page → Page) (site : Site) :
    (onPage (ε := ε) path f).run site = .ok () (site.alterPage path f) := by
  -- The page that is written back is the one that had been there, or the blank one.
  have hpage : ((site.ensurePage path).page? path).getD {} = (site.page? path).getD {} := by
    simp [Site.ensurePage, Site.alterPage, Site.page?]
  change EStateM.Result.ok () ((site.ensurePage path).alterPage path fun _ =>
    f (((site.ensurePage path).page? path).getD {})) = _
  rw [hpage, Site.ensurePage, Site.alterPage, Site.alterPage, Keyed.alter_alter, Site.alterPage]
  congr 2
  exact Keyed.alter_congr _ _ rfl

end Work

namespace Tool

/-- A tool at work: it looks at its arguments one by one, then at the site. -/
def perform (tool : Tool) (args : Fields) : Work ArgumentsError Unit := do
  match tool with
  | createPage =>
    let path ← ofExcept ((pathArgument args).mapError .fault)
    let content ← ofExcept ((textArgument args "content" .content).mapError .fault)
    Work.onPage path fun page => { page with content }
  | addDynamicContent =>
    let path ← ofExcept ((pathArgument args).mapError .fault)
    let placeholder ←
      ofExcept ((nonEmptyArgument args "placeholder" .placeholder).mapError .fault)
    let kind ← ofExcept (kindArgument args)
    Work.onPage path fun page => { page with rules := page.rules ++ [⟨placeholder, kind⟩] }
  | addAsset =>
    let path ← ofExcept ((pathArgument args).mapError .fault)
    let asset ← ofExcept ((nonEmptyArgument args "asset" .asset).mapError .fault)
    let piece ← ofExcept ((imageArgument args asset).tag.mapError .long)
    Work.onPage path fun page =>
      { page with content := (placementArgument args).place piece page.content }
  | setLayout =>
    let header ← ofExcept ((htmlArgument args "header_html").mapError .long)
    let footer ← ofExcept ((htmlArgument args "footer_html").mapError .long)
    modify fun site => { site with layout := ⟨header, footer⟩ }

end Tool

namespace Work

variable {ε α : Type}

/-- Whether some work carries out the change that there is, or fails, for the same reason that
there is none, before it has touched the site. -/
def CarriesOut (work : Work ε Unit) (change : Except ε Edit) : Prop :=
  ∀ site, work.run site =
    match change with
    | .ok edit => .ok () (site.apply edit)
    | .error e => .error e site

theorem CarriesOut.bind {x : Except ε α} {work : α → Work ε Unit} {change : α → Except ε Edit}
    (h : ∀ a, CarriesOut (work a) (change a)) :
    CarriesOut (ofExcept x >>= work) (x >>= change) := by
  intro site
  cases x with
  | error e => rfl
  | ok a => exact h a site

theorem CarriesOut.onPage (edit : Edit) {path : String} (hpath : edit.path? = some path) :
    CarriesOut (ε := ε) (Work.onPage path edit.onPage) (pure edit) := by
  intro site
  rw [run_onPage]
  simp only [pure, Except.pure, Site.apply, hpath]

end Work

theorem Tool.perform_carriesOut (tool : Tool) (args : Fields) :
    Work.CarriesOut (tool.perform args) (tool.edit args) := by
  cases tool with
  | createPage =>
    apply Work.CarriesOut.bind
    intro path
    apply Work.CarriesOut.bind
    intro content
    exact Work.CarriesOut.onPage (.content path content) rfl
  | addDynamicContent =>
    apply Work.CarriesOut.bind
    intro path
    apply Work.CarriesOut.bind
    intro placeholder
    apply Work.CarriesOut.bind
    intro kind
    exact Work.CarriesOut.onPage (.rule path ⟨placeholder, kind⟩) rfl
  | addAsset =>
    apply Work.CarriesOut.bind
    intro path
    apply Work.CarriesOut.bind
    intro asset
    apply Work.CarriesOut.bind
    intro piece
    exact Work.CarriesOut.onPage (.fragment path piece (placementArgument args)) rfl
  | setLayout =>
    apply Work.CarriesOut.bind
    intro header
    apply Work.CarriesOut.bind
    intro footer site
    rfl

namespace Interpreter

variable (interpreter : Interpreter)

/-- Carries a call out on a site, and gives the reason if it is refused. A halt is no such
reason and is passed on. -/
def perform (call : ToolCall) : Work Json.Halt (Option Refusal) :=
  if call.label = "" then return some .noName
  else
    match interpreter.registry.get? call.label with
    | none => return some (.unknownTool call.label)
    | some tool =>
      match arguments interpreter.nesting call.arguments with
      | .error (.halt e) => throw e
      | .error (.fault fault) => return some (.invalid ⟨call.label, fault⟩)
      | .ok args => fun site =>
        match (tool.perform args).run site with
        | .ok () after => .ok none after
        | .error (.fault fault) after => .ok (some (.invalid ⟨tool.name, fault⟩)) after
        | .error (.halt e) after => .error e after

theorem run_perform (call : ToolCall) (site : Site) :
    (interpreter.perform call).run site =
      match interpreter.judge call with
      | .ok (.accepted edit) => .ok none (site.apply edit)
      | .ok (.refused reason) => .ok (some reason) site
      | .error e => .error e site := by
  rw [perform, judge]
  by_cases hlabel : call.label = ""
  · simp only [if_pos hlabel]
    rfl
  · simp only [if_neg hlabel]
    cases interpreter.registry.get? call.label with
    | none => rfl
    | some tool =>
      cases arguments interpreter.nesting call.arguments with
      | error e => cases e <;> rfl
      | ok args =>
        have hwork := tool.perform_carriesOut args site
        simp only [EStateM.run] at hwork ⊢
        rw [hwork]
        cases tool.edit args with
        | ok edit => rfl
        | error e => cases e <;> rfl

theorem replayFrom_cons (r : Replay) (call : ToolCall)
    (calls : List ToolCall) :
    interpreter.replayFrom r (call :: calls) =
      match (interpreter.perform call).run r.site with
      | .ok none site => interpreter.replayFrom { r with site, applied := r.applied + 1 } calls
      | .ok (some reason) site =>
        let skipped := r.skipped ++ [⟨r.seen, call.label, reason.message⟩]
        interpreter.replayFrom { r with site, skipped } calls
      | .error cause _ => .error ⟨cause, r.skipped⟩ := by
  rw [replayFrom, run_perform]
  cases interpreter.judge call with
  | error e => rfl
  | ok verdict => cases verdict <;> rfl

theorem replay_accepted {calls : List ToolCall}
    (h : ∀ call ∈ calls, (interpreter.edit? call).isSome = true) :
    interpreter.replay calls =
      .ok
        { site := Site.applyAll {} (calls.filterMap interpreter.edit?)
          applied := calls.length
          skipped := [] } := by
  have hjudged : ∀ call ∈ calls, ∃ edit, interpreter.judge call = .ok (.accepted edit) := by
    intro call hcall
    obtain ⟨edit, he⟩ := Option.isSome_iff_exists.1 (h call hcall)
    exact ⟨edit, edit?_eq_some_iff.1 he⟩
  have hverdict : ∀ call ∈ calls, ∃ verdict, interpreter.judge call = .ok verdict := by
    intro call hcall
    obtain ⟨edit, he⟩ := hjudged call hcall
    exact ⟨.accepted edit, he⟩
  obtain ⟨r, hr⟩ := (exists_replay_iff interpreter calls).2 hverdict
  have happlied : (calls.filterMap interpreter.edit?).length = calls.length :=
    List.filterMap_length_eq_length.2 h
  have hskipped : calls.zipIdx.filterMap interpreter.skip? = [] := by
    rw [List.filterMap_eq_nil_iff]
    intro entry he
    obtain ⟨edit, hedit⟩ := hjudged entry.1 (List.fst_mem_of_mem_zipIdx he)
    exact skip?_of_accepted hedit entry.2
  rw [hr, replay_eq hr, outcome, happlied, hskipped]

theorem perform_cases (call : ToolCall) (site : Site) :
    (∃ after, (interpreter.perform call).run site = .ok none after) ∨
      (∃ reason, (interpreter.perform call).run site = .ok (some reason) site) ∨
      ∃ e, (interpreter.perform call).run site = .error e site := by
  rw [run_perform]
  cases interpreter.judge call with
  | error e => exact .inr (.inr ⟨e, rfl⟩)
  | ok verdict =>
    cases verdict with
    | accepted edit => exact .inl ⟨_, rfl⟩
    | refused reason => exact .inr (.inl ⟨reason, rfl⟩)

theorem replay_remaining {calls : List ToolCall} {r : Replay}
    (h : interpreter.replay calls = .ok r) :
    interpreter.replay (r.remaining calls) =
      .ok { site := r.site, applied := (r.remaining calls).length, skipped := [] } := by
  have haccepted : ∀ call ∈ r.remaining calls, (interpreter.edit? call).isSome = true := by
    rw [remaining_eq h]
    intro call hcall
    exact (List.mem_filter.1 hcall).2
  -- The calls that are left out make no change, so the changes stay the same.
  have hedits : (r.remaining calls).filterMap interpreter.edit? =
      calls.filterMap interpreter.edit? := by
    rw [remaining_eq h, List.filterMap_filter]
    apply List.filterMap_congr
    intro call _
    cases he : interpreter.edit? call <;> rfl
  have hsite : r.site = Site.applyAll {} (calls.filterMap interpreter.edit?) := by
    rw [replay_eq h, outcome]
  rw [replay_accepted interpreter haccepted, hedits, hsite]

/-- A call that is not carried out leaves the site as it was, whatever the reason. So the calls
that a replay did not skip make the same site by themselves, and none of them is skipped. -/
theorem skipped_leave_no_trace :
    (∀ call site,
      (∃ after, (interpreter.perform call).run site = .ok none after) ∨
        (∃ reason, (interpreter.perform call).run site = .ok (some reason) site) ∨
        ∃ e, (interpreter.perform call).run site = .error e site) ∧
    (∀ r call calls, interpreter.replayFrom r (call :: calls) =
      match (interpreter.perform call).run r.site with
      | .ok none site => interpreter.replayFrom { r with site, applied := r.applied + 1 } calls
      | .ok (some reason) site =>
        let skipped := r.skipped ++ [⟨r.seen, call.label, reason.message⟩]
        interpreter.replayFrom { r with site, skipped } calls
      | .error cause _ => .error ⟨cause, r.skipped⟩) ∧
    ∀ calls r, interpreter.replay calls = .ok r →
      interpreter.replay (r.remaining calls) =
        .ok { site := r.site, applied := (r.remaining calls).length, skipped := [] } := by
  refine ⟨interpreter.perform_cases, interpreter.replayFrom_cons, ?_⟩
  intro calls r h
  exact interpreter.replay_remaining h

/-- A page, and one that is not made since its content is a number. -/
def numberedPage : List ToolCall :=
  [⟨.str "create_page", .obj [("path", .str "/numbered"), ("content", .int 5)]⟩,
    ⟨.str "create_page", .obj [("path", .str "/"), ("content", .str "hi")]⟩]

theorem skipped_leave_no_trace_numbered_page :
    ∃ r, standard.replay numberedPage = .ok r ∧ r.skipped.length = 1 ∧
      standard.replay (r.remaining numberedPage) =
        .ok { site := { pages := [("/", ⟨"hi", []⟩)] }, applied := 1, skipped := [] } := by
  have hreplay : standard.replay numberedPage = .ok
      { site := { pages := [("/", ⟨"hi", []⟩)] }
        applied := 1
        skipped := [⟨0, "create_page", "create_page: \"content\" must be a string"⟩] } := rfl
  exact ⟨_, hreplay, rfl, (skipped_leave_no_trace standard).2.2 _ _ hreplay⟩

end Interpreter

end Sitewright
