import Mathlib.Data.List.DropRight
import Sitewright.Proofs.Keyed
import Sitewright.Site.Edit

namespace Sitewright

namespace Keyed

variable {κ α : Type} [DecidableEq κ]

theorem alter_map (names : List κ) (hn : names.Nodup) (f : κ → α) (key : κ) (g : Option α → α) :
    alter key g (names.map fun k => (k, f k)) =
      if key ∈ names then names.map fun k => (k, if k = key then g (some (f k)) else f k)
      else (names.map fun k => (k, f k)) ++ [(key, g none)] := by
  induction names with
  | nil => rfl
  | cons name names ih =>
    obtain ⟨hne, hn'⟩ := List.nodup_cons.1 hn
    rw [List.map_cons, alter]
    by_cases h : name = key
    · subst h
      rw [if_pos rfl, if_pos List.mem_cons_self, List.map_cons, if_pos rfl]
      congr 1
      apply List.map_congr_left
      intro k hk
      rw [if_neg (ne_of_mem_of_not_mem hk hne)]
    · have hmem : key ∈ name :: names ↔ key ∈ names := by
        rw [List.mem_cons, or_iff_right (Ne.symm h)]
      rw [if_neg h, ih hn']
      simp only [hmem]
      split
      · rw [List.map_cons, if_neg h]
      · rfl

end Keyed

namespace Edit

def content? : Edit → Option String
  | content _ text => some text
  | _ => none

def rule? : Edit → Option Rule
  | rule _ added => some added
  | _ => none

def fragment? : Edit → Option (String × Placement)
  | fragment _ piece placement => some (piece, placement)
  | _ => none

def layout? : Edit → Option Layout
  | layout new => some new
  | _ => none

/-- The edits that come after the last one to give a content. -/
def sinceContent (edits : List Edit) : List Edit := edits.rtakeWhile fun e => e.content?.isNone

/-- The edits of one page. -/
def on (path : String) (edits : List Edit) : List Edit := edits.filter fun e => e.path? = some path

theorem layout?_of_path? {edit : Edit} {path : String} (hp : edit.path? = some path) :
    edit.layout? = none := by
  cases edit with
  | layout new => cases hp
  | _ => rfl

theorem eq_layout_of_path? {edit : Edit} (hp : edit.path? = none) : ∃ new, edit = .layout new := by
  cases edit with
  | layout new => exact ⟨new, rfl⟩
  | _ => cases hp

theorem on_append_self {edit : Edit} {path : String} (edits : List Edit)
    (hp : edit.path? = some path) : on path (edits ++ [edit]) = on path edits ++ [edit] := by
  rw [on, List.filter_append, List.filter_cons_of_pos (by simpa using hp), List.filter_nil, on]

theorem on_append_of_ne {edit : Edit} {path : String} (edits : List Edit)
    (hp : edit.path? ≠ some path) : on path (edits ++ [edit]) = on path edits := by
  rw [on, List.filter_append, List.filter_cons_of_neg (by simpa using hp), List.filter_nil,
    List.append_nil, on]

theorem on_eq_nil {edits : List Edit} {path : String} (h : path ∉ edits.filterMap Edit.path?) :
    on path edits = [] := by
  rw [on, List.filter_eq_nil_iff]
  intro e he hp
  exact h (List.mem_filterMap.2 ⟨e, he, of_decide_eq_true hp⟩)

theorem sinceContent_append (edits : List Edit) (edit : Edit) :
    sinceContent (edits ++ [edit]) =
      if edit.content?.isNone then sinceContent edits ++ [edit] else [] :=
  List.rtakeWhile_concat _ _ _

end Edit

/-- A page by the edits of its path: the content that was given last, with the fragments that came
after it at their places, and every rule. -/
def Page.ofEdits (edits : List Edit) : Page where
  content := ((Edit.sinceContent edits).filterMap Edit.fragment?).foldl
    (fun content f => f.2.place f.1 content) ((edits.filterMap Edit.content?).getLast?.getD "")
  rules := edits.filterMap Edit.rule?

/-- A site by its edits: a page for each path, in the order in which the paths come up, and the
layout that was given last. -/
def Site.ofEdits (edits : List Edit) : Site where
  pages := (edits.filterMap Edit.path?).eraseDups.map fun path =>
    (path, Page.ofEdits (Edit.on path edits))
  layout := (edits.filterMap Edit.layout?).getLast?.getD {}

namespace Page

@[simp] theorem ofEdits_nil : ofEdits [] = {} := rfl

theorem ofEdits_append {edit : Edit} {path : String} (edits : List Edit)
    (hp : edit.path? = some path) : ofEdits (edits ++ [edit]) = edit.onPage (ofEdits edits) := by
  simp only [ofEdits, Edit.sinceContent_append, List.filterMap_append, Edit.onPage]
  cases edit with
  | content p text => simp [Edit.content?, Edit.rule?]
  | rule p added => simp [Edit.content?, Edit.rule?, Edit.fragment?, List.filterMap_cons]
  | fragment p piece placement => simp [Edit.content?, Edit.rule?, Edit.fragment?]
  | layout new => cases hp

end Page

namespace Site

theorem eraseDups_append_singleton {α : Type} [DecidableEq α] (xs : List α) (x : α) :
    (xs ++ [x]).eraseDups = if x ∈ xs then xs.eraseDups else xs.eraseDups ++ [x] := by
  rw [List.eraseDups_append]
  split
  · next h => simp [List.removeAll, h]
  · next h => simp [List.removeAll, h, List.eraseDups_cons]

theorem nodup_eraseDups {α : Type} [DecidableEq α] (xs : List α) : xs.eraseDups.Nodup := by
  induction xs using List.reverseRecOn with
  | nil => exact List.nodup_nil
  | append_singleton xs x ih =>
    rw [eraseDups_append_singleton]
    split
    · exact ih
    · next h =>
      refine List.nodup_append.2 ⟨ih, List.pairwise_singleton _ x, ?_⟩
      rintro a ha b hb rfl
      rw [List.mem_singleton] at hb
      exact h (hb ▸ List.mem_eraseDups.1 ha)

theorem ofEdits_append_layout (edits : List Edit) (new : Layout) :
    ofEdits (edits ++ [.layout new]) = { ofEdits edits with layout := new } := by
  have hon (path : String) : Edit.on path (edits ++ [.layout new]) = Edit.on path edits :=
    Edit.on_append_of_ne edits nofun
  have hpaths : (edits ++ [Edit.layout new]).filterMap Edit.path? = edits.filterMap Edit.path? := by
    rw [List.filterMap_append, List.filterMap_cons_none rfl, List.filterMap_nil, List.append_nil]
  have hlayouts : (edits ++ [Edit.layout new]).filterMap Edit.layout? =
      edits.filterMap Edit.layout? ++ [new] := by
    rw [List.filterMap_append, List.filterMap_cons_some (f := Edit.layout?) rfl,
      List.filterMap_nil]
  simp only [ofEdits, hon, hpaths, hlayouts, List.getLast?_concat, Option.getD_some]

theorem ofEdits_append_page {edit : Edit} {path : String} (edits : List Edit)
    (hp : edit.path? = some path) :
    ofEdits (edits ++ [edit]) = (ofEdits edits).alterPage path edit.onPage := by
  have hpaths : (edits ++ [edit]).filterMap Edit.path? = edits.filterMap Edit.path? ++ [path] := by
    rw [List.filterMap_append, List.filterMap_cons_some hp, List.filterMap_nil]
  have hlayouts : (edits ++ [edit]).filterMap Edit.layout? = edits.filterMap Edit.layout? := by
    rw [List.filterMap_append, List.filterMap_cons_none (Edit.layout?_of_path? hp),
      List.filterMap_nil, List.append_nil]
  have hother (k : String) (h : k ≠ path) : Edit.on k (edits ++ [edit]) = Edit.on k edits :=
    Edit.on_append_of_ne edits fun he => h (Option.some.inj (he.symm.trans hp))
  have hsame : Page.ofEdits (Edit.on path (edits ++ [edit])) =
      edit.onPage (Page.ofEdits (Edit.on path edits)) := by
    rw [Edit.on_append_self edits hp, Page.ofEdits_append _ hp]
  simp only [ofEdits, alterPage, hlayouts, hpaths, eraseDups_append_singleton,
    Keyed.alter_map _ (nodup_eraseDups _), List.mem_eraseDups, Option.getD_some, Option.getD_none]
  congr 1
  split
  · apply List.map_congr_left
    intro k _
    split
    · next h => rw [h, hsame]
    · next h => rw [hother k h]
  · next hnew =>
    rw [List.map_append, List.map_singleton, hsame, Edit.on_eq_nil hnew, Page.ofEdits_nil]
    congr 1
    apply List.map_congr_left
    intro k hk
    rw [hother k fun he => hnew (he ▸ List.mem_eraseDups.1 hk)]

theorem ofEdits_append (edits : List Edit) (edit : Edit) :
    ofEdits (edits ++ [edit]) = (ofEdits edits).apply edit := by
  rw [apply]
  cases hp : edit.path? with
  | none =>
    obtain ⟨new, rfl⟩ := Edit.eq_layout_of_path? hp
    exact ofEdits_append_layout edits new
  | some path => exact ofEdits_append_page edits hp

theorem applyAll_eq_ofEdits (edits : List Edit) : applyAll {} edits = ofEdits edits := by
  induction edits using List.reverseRecOn with
  | nil => rfl
  | append_singleton edits edit ih =>
    rw [applyAll, List.foldl_append, ofEdits_append, ← ih]
    rfl

end Site

end Sitewright
