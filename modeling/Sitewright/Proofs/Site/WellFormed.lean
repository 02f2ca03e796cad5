import Sitewright.Proofs.Site.OfEdits
import Sitewright.Site.Route

namespace Sitewright

namespace Keyed

variable {κ α : Type} [DecidableEq κ] {m : Keyed κ α} {key : κ} {f : Option α → α} {e : κ × α}

theorem mem_of_get? {value : α} (h : m.get? key = some value) : (key, value) ∈ m := by
  induction m with
  | nil => cases h
  | cons entry rest ih =>
    rw [get?] at h
    split at h
    · next hk =>
      obtain rfl := Option.some.inj h
      exact hk ▸ List.mem_cons_self
    · exact List.mem_cons_of_mem _ (ih h)

/-- Only the entry under the key can be new. -/
theorem mem_of_mem_alter (h : e ∈ m.alter key f) : e ∈ m ∨ e = (key, f (m.get? key)) := by
  induction m with
  | nil => exact .inr (List.mem_singleton.1 h)
  | cons entry rest ih =>
    rw [alter] at h
    rw [get?]
    split at h
    · next hk =>
      rw [if_pos hk]
      obtain rfl | h := List.mem_cons.1 h
      · exact .inr rfl
      · exact .inl (List.mem_cons_of_mem _ h)
    · next hk =>
      rw [if_neg hk]
      obtain rfl | h := List.mem_cons.1 h
      · exact .inl List.mem_cons_self
      · exact (ih h).imp_left (List.mem_cons_of_mem _)

end Keyed

/-- Whether a text can be the path of a page. -/
def Rooted (path : String) : Prop := path.toList.head? = some '/'

def Rule.WellFormed (rule : Rule) : Prop := rule.placeholder ≠ "" ∧ rule.kind = .currentTime

/-- Whether an edit is of a page that there can be, and adds no rule that there cannot be. -/
structure Edit.WellFormed (edit : Edit) : Prop where
  path : ∀ path, edit.path? = some path → Rooted path
  rule : ∀ rule, edit.rule? = some rule → rule.WellFormed

structure Site.WellFormed (site : Site) : Prop where
  distinct : site.pages.keys.Nodup
  rooted : ∀ path ∈ site.pages.keys, Rooted path
  rules : ∀ path page, (path, page) ∈ site.pages → ∀ rule ∈ page.rules, rule.WellFormed

theorem Edit.mem_rules_onPage {edit : Edit} {page : Page} {rule : Rule}
    (h : rule ∈ (edit.onPage page).rules) : rule ∈ page.rules ∨ edit.rule? = some rule := by
  cases edit with
  | content _ _ => exact .inl h
  | rule _ added =>
    obtain h | h := List.mem_append.1 h
    · exact .inl h
    · exact .inr (congrArg some (List.mem_singleton.1 h).symm)
  | fragment _ _ _ => exact .inl h
  | layout _ => exact .inl h

namespace Site

variable {site : Site} {edit : Edit} {path : String}

theorem wellFormed_empty : WellFormed {} where
  distinct := List.nodup_nil
  rooted := nofun
  rules := nofun

theorem keys_alterPage (site : Site) (path : String) (f : Page → Page) :
    (site.alterPage path f).pages.keys =
      if path ∈ site.pages.keys then site.pages.keys else site.pages.keys ++ [path] :=
  Keyed.keys_alter _ _ _

theorem WellFormed.alterPage (h : site.WellFormed) (hpath : Rooted path)
    (hrule : ∀ rule, edit.rule? = some rule → rule.WellFormed) :
    (site.alterPage path edit.onPage).WellFormed where
  distinct := Keyed.nodup_keys_alter h.distinct _ _
  rooted := by
    intro other hother
    rw [keys_alterPage] at hother
    split at hother
    · exact h.rooted other hother
    · obtain hother | hother := List.mem_append.1 hother
      · exact h.rooted other hother
      · rw [List.mem_singleton.1 hother]
        exact hpath
  rules := by
    intro other page hpage rule hr
    obtain hold | hnew := Keyed.mem_of_mem_alter hpage
    · exact h.rules other page hold rule hr
    · obtain ⟨rfl, rfl⟩ := Prod.mk.inj hnew
      obtain hr | hr := Edit.mem_rules_onPage hr
      · cases hget : site.pages.get? other with
        | none =>
          rw [hget] at hr
          cases hr
        | some old =>
          rw [hget] at hr
          exact h.rules other old (Keyed.mem_of_get? hget) rule hr
      · exact hrule rule hr

theorem WellFormed.apply (h : site.WellFormed) (he : edit.WellFormed) :
    (site.apply edit).WellFormed := by
  rw [Site.apply]
  split
  · next path hp => exact h.alterPage (he.path path hp) he.rule
  · exact ⟨h.distinct, h.rooted, h.rules⟩

theorem WellFormed.applyAll (h : site.WellFormed) {edits : List Edit}
    (he : ∀ edit ∈ edits, edit.WellFormed) : (site.applyAll edits).WellFormed := by
  induction edits generalizing site with
  | nil => exact h
  | cons edit edits ih =>
    obtain ⟨hedit, hrest⟩ := List.forall_mem_cons.1 he
    exact ih (h.apply hedit) hrest

theorem keys_applyAll (edits : List Edit) :
    (applyAll {} edits).pages.keys = (edits.filterMap Edit.path?).eraseDups := by
  rw [applyAll_eq_ofEdits, ofEdits, Keyed.keys, List.map_map]
  exact List.map_id _

theorem pages_applyAll_eq_nil_iff {edits : List Edit} :
    (applyAll {} edits).pages = [] ↔ ∀ edit ∈ edits, edit.path? = none := by
  rw [← List.filterMap_eq_nil_iff, ← List.map_eq_nil_iff (f := Prod.fst)]
  change (applyAll {} edits).pages.keys = [] ↔ _
  rw [keys_applyAll]
  cases edits.filterMap Edit.path? with
  | nil => exact iff_of_true rfl rfl
  | cons path paths =>
    rw [List.eraseDups_cons]
    exact iff_of_false nofun nofun

end Site

/-- A page that bears its own path. -/
structure Sheet where
  path : String
  content : String := ""
  rules : List Rule := []

def Sheet.page (sheet : Sheet) : Page := ⟨sheet.content, sheet.rules⟩

def Sheet.write (page : Page) (sheet : Sheet) : Sheet :=
  { sheet with content := page.content, rules := page.rules }

/-- A site whose pages bear their paths. -/
structure Binder where
  sheets : Named Sheet := []
  layout : Layout := {}

namespace Binder

def site (binder : Binder) : Site where
  pages := binder.sheets.map fun entry => (entry.1, entry.2.page)
  layout := binder.layout

/-- The binder with an edit made; a page that is not there starts blank, with its path on it. -/
def apply (binder : Binder) (edit : Edit) : Binder :=
  match edit.path? with
  | some path =>
    { binder with sheets := binder.sheets.alter path fun sheet =>
        let sheet := sheet.getD { path }
        sheet.write (edit.onPage sheet.page) }
  | none => { binder with layout := edit.onLayout binder.layout }

def applyAll (binder : Binder) (edits : List Edit) : Binder := edits.foldl apply binder

/-- Whether every page is kept under the path that it bears. -/
def Filed (binder : Binder) : Prop :=
  ∀ path sheet, (path, sheet) ∈ binder.sheets → sheet.path = path

theorem map_page_alter (sheets : Named Sheet) (path : String) (f : Page → Page) :
    (sheets.alter path fun sheet =>
        (sheet.getD { path }).write (f (sheet.getD { path }).page)).map
          (fun entry => (entry.1, entry.2.page)) =
      Keyed.alter path (fun page => f (page.getD {}))
        (sheets.map fun entry => (entry.1, entry.2.page)) := by
  induction sheets with
  | nil => rfl
  | cons entry rest ih =>
    rw [Keyed.alter, List.map_cons, Keyed.alter]
    split
    · rfl
    · rw [List.map_cons, ih]

theorem site_apply (binder : Binder) (edit : Edit) :
    (binder.apply edit).site = binder.site.apply edit := by
  rw [apply, Site.apply]
  cases edit.path? with
  | none => rfl
  | some path =>
    dsimp only
    rw [Site.alterPage, site, map_page_alter]
    rfl

theorem site_applyAll (binder : Binder) (edits : List Edit) :
    (binder.applyAll edits).site = binder.site.applyAll edits := by
  induction edits generalizing binder with
  | nil => rfl
  | cons edit edits ih =>
    rw [applyAll, List.foldl_cons, Site.applyAll, List.foldl_cons, ← site_apply]
    exact ih (binder.apply edit)

theorem Filed.apply {binder : Binder} (h : binder.Filed) (edit : Edit) :
    (binder.apply edit).Filed := by
  rw [Binder.apply]
  split
  · next path _ =>
    intro other sheet hsheet
    obtain hold | hnew := Keyed.mem_of_mem_alter hsheet
    · exact h other sheet hold
    · obtain ⟨rfl, rfl⟩ := Prod.mk.inj hnew
      cases hget : binder.sheets.get? other with
      | none => rfl
      | some old => exact h other old (Keyed.mem_of_get? hget)
  · exact h

theorem filed_applyAll (edits : List Edit) : (applyAll {} edits).Filed := by
  have hall (binder : Binder) (h : binder.Filed) : (binder.applyAll edits).Filed := by
    induction edits generalizing binder with
    | nil => exact h
    | cons edit edits ih => exact ih (binder.apply edit) (h.apply edit)
  exact hall {} nofun

end Binder

/-- The routes of a site that has no pages. -/
def RouteTable.diagnostic (layout : Layout) : RouteTable := ⟨[⟨"/", diagnosticContent, [], layout⟩]⟩

namespace Site

variable {site : Site}

theorem routeTable_of_pages_eq_nil (h : site.pages = []) :
    site.routeTable = .diagnostic site.layout := by
  rw [routeTable, h]
  rfl

theorem routeTable_of_pages_ne_nil (h : site.pages ≠ []) :
    site.routeTable = ⟨site.pages.map (route site.layout)⟩ := by
  rw [routeTable, if_neg (List.isEmpty_iff.not.2 h)]

theorem paths_routeTable (h : site.pages ≠ []) : site.routeTable.paths = site.pages.keys := by
  rw [routeTable_of_pages_ne_nil h, RouteTable.paths, List.map_map]
  rfl

@[simp] theorem routes_routeTable_ne_nil (site : Site) : site.routeTable.routes ≠ [] := by
  rw [routeTable]
  split
  · exact List.cons_ne_nil _ _
  · next h => exact fun hnil => h (List.isEmpty_iff.2 (List.map_eq_nil_iff.1 hnil))

theorem WellFormed.routeTable (h : site.WellFormed) :
    site.routeTable.paths.Nodup ∧ ∀ path ∈ site.routeTable.paths, Rooted path := by
  by_cases hpages : site.pages = []
  · have hroot : Rooted "/" := rfl
    rw [routeTable_of_pages_eq_nil hpages]
    exact ⟨List.pairwise_singleton _ _, List.forall_mem_singleton.2 hroot⟩
  · rw [paths_routeTable hpages]
    exact ⟨h.distinct, h.rooted⟩

/-- The routes look like those of a site without pages also when its one page is like the page
that is shown for lack of any. -/
theorem routeTable_eq_diagnostic_iff :
    site.routeTable = .diagnostic site.layout ↔
      site.pages = [] ∨ site.pages = [("/", ⟨diagnosticContent, []⟩)] := by
  constructor
  · intro h
    by_cases hpages : site.pages = []
    · exact .inl hpages
    · rw [routeTable_of_pages_ne_nil hpages, RouteTable.diagnostic, RouteTable.mk.injEq,
        List.map_eq_singleton_iff] at h
      obtain ⟨⟨path, content, rules⟩, hpage, hroute⟩ := h
      cases hroute
      exact .inr hpage
  · rintro (h | h)
    · exact routeTable_of_pages_eq_nil h
    · rw [routeTable_of_pages_ne_nil (h ▸ List.cons_ne_nil _ _), h]
      rfl

end Site

end Sitewright
