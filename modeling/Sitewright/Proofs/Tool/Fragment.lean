import Sitewright.Proofs.Site.WellFormed
import Sitewright.Proofs.Text.Replace
import Sitewright.Proofs.Tool.Image

namespace Sitewright

/-- Whether a site is another with this page at a path, and else the same. A page that was not
there is the last one. -/
structure Site.Changed (before : Site) (path : String) (page : Page) (after : Site) : Prop where
  page : after.page? path = some page
  others : ∀ other, other ≠ path → after.page? other = before.page? other
  order : after.pages.keys =
    if path ∈ before.pages.keys then before.pages.keys else before.pages.keys ++ [path]
  layout : after.layout = before.layout

theorem Site.changed_apply (site : Site) (edit : Edit) {path : String}
    (hp : edit.path? = some path) :
    site.Changed path (edit.onPage ((site.page? path).getD {})) (site.apply edit) := by
  have happly : site.apply edit = site.alterPage path edit.onPage := by
    rw [apply, hp]
  rw [happly]
  constructor
  · simp [Site.page?, Site.alterPage]
  · intro other hother
    simp [Site.page?, Site.alterPage, hother]
  · exact keys_alterPage site path edit.onPage
  · rfl

namespace Tool

variable {args : Fields} {path asset text : String}

/-- Whether arguments ask for a fragment in place of a text. -/
structure Replaces (args : Fields) (text : String) : Prop where
  placement : args.get? "placement" = some (.str "replace_placeholder")
  placeholder : args.get? "placeholder" = some (.str text)
  ne_empty : text ≠ ""

theorem Replaces.placementArgument_eq (h : Replaces args text) :
    placementArgument args = .inPlaceOf text := by
  rw [placementArgument, h.placement, h.placeholder]
  exact if_neg h.ne_empty

theorem placementArgument_of_first (h : args.get? "placement" = some (.str "prepend")) :
    placementArgument args = .first := by
  rw [placementArgument, h]
  rfl

theorem placementArgument_of_other (hreplaces : ∀ text, ¬Replaces args text)
    (hfirst : args.get? "placement" ≠ some (.str "prepend")) : placementArgument args = .last := by
  unfold placementArgument
  split
  · next hplacement hplaceholder =>
    split
    · rfl
    · next hne => exact absurd ⟨hplacement, hplaceholder, hne⟩ (hreplaces _)
  · next hplacement => exact absurd hplacement hfirst
  · rfl

/-- Whether a content is another one with a fragment at the place that arguments give: in place of
the first occurrence of a text if it occurs, in front, or behind. -/
structure Placed (args : Fields) (fragment content placed : String) : Prop where
  found : ∀ text, Replaces args text → text.toList <:+: content.toList →
    ∃ before after, Text.FirstCut text.toList content.toList before after ∧
      placed.toList = before ++ fragment.toList ++ after
  missing : ∀ text, Replaces args text → ¬text.toList <:+: content.toList → placed = content
  first : args.get? "placement" = some (.str "prepend") → placed = fragment ++ content
  last : (∀ text, ¬Replaces args text) →
    args.get? "placement" ≠ some (.str "prepend") → placed = content ++ fragment

theorem placed_place (args : Fields) (fragment content : String) :
    Placed args fragment content ((placementArgument args).place fragment content) := by
  constructor
  · intro text hreplaces hoccurs
    obtain ⟨before, after, hcut, hplaced⟩ := Text.exists_replaceFirst hoccurs fragment.toList
    refine ⟨before, after, hcut, ?_⟩
    rw [hreplaces.placementArgument_eq, Placement.place, String.toList_ofList, hplaced]
  · intro text hreplaces hnot
    rw [hreplaces.placementArgument_eq, Placement.place,
      Text.replaceFirst_eq_self (Text.cutAt_eq_none_iff.2 hnot), String.ofList_toList]
  · intro hfirst
    rw [placementArgument_of_first hfirst]
    rfl
  · intro hreplaces hfirst
    rw [placementArgument_of_other hreplaces hfirst]
    rfl

/-- An image comes into the content of its page once, at the place that the arguments give, or not
at all where a text that is to be replaced does not occur; the rules of the page, all other pages,
their order and the layout stay. Only an integer that is too long to be shown keeps the image from
being made, and then there is no change. -/
theorem fragment_is_placed_once (hpath : args.get? "path" = some (.str path))
    (hrooted : Rooted path) (hasset : args.get? "asset" = some (.str asset)) (hne : asset ≠ "")
    (site : Site) :
    let image := imageArgument args asset
    let page := (site.page? path).getD {}
    (image.Overlong → addAsset.edit args = .error (.long .shown)) ∧
    (¬image.Overlong → ∃ fragment content edit,
      image.tag = .ok fragment ∧ Placed args fragment page.content content ∧
        addAsset.edit args = .ok edit ∧
        site.Changed path { page with content } (site.apply edit)) := by
  intro image page
  have hpath' : pathArgument args = .ok path := by
    rw [pathArgument, hpath]
    exact if_pos hrooted
  have hasset' : nonEmptyArgument args "asset" .asset = .ok asset := by
    rw [nonEmptyArgument, hasset]
    exact if_neg hne
  constructor
  · intro hlong
    exact (edit_eq_halt_iff _ _ _).2 ⟨rfl, ⟨path, hpath'⟩, ⟨asset, hasset'⟩, hlong⟩
  · intro hshort
    exact ⟨_, _, _, Image.tag_eq hshort, placed_place args _ page.content,
      edit_addAsset_eq hpath' hasset' hshort, site.changed_apply (.fragment path _ _) rfl⟩

/-- Two pages with a text that overlaps with itself. -/
def overlappingSite : Site where
  pages := [("/", ⟨"x[][][]y", [⟨"y", .currentTime⟩]⟩), ("/about", ⟨"[][]", []⟩)]

def overlappingArguments : Fields :=
  [("asset", .str "a.png"), ("placement", .str "replace_placeholder"), ("path", .str "/"),
    ("placeholder", .str "[][]"), ("alt", .arr [.null])]

theorem fragment_is_placed_once_overlapping :
    ∃ edit, addAsset.edit overlappingArguments = .ok edit ∧
      overlappingSite.Changed "/"
        ⟨"x<img src=\"/assets/images/a.png\" alt=\"[None]\" />[]y", [⟨"y", .currentTime⟩]⟩
        (overlappingSite.apply edit) := by
  have hpath : overlappingArguments.get? "path" = some (.str "/") := rfl
  have hasset : overlappingArguments.get? "asset" = some (.str "a.png") := rfl
  obtain ⟨-, h⟩ := fragment_is_placed_once hpath rfl hasset (by decide) overlappingSite
  have hshort : ¬(imageArgument overlappingArguments "a.png").Overlong := by
    rintro (h | h | h | h) <;> cases h
  obtain ⟨fragment, content, edit, htag, hplaced, hedit, hchanged⟩ := h hshort
  have hreplaces : Replaces overlappingArguments "[][]" := ⟨rfl, rfl, by decide⟩
  have hcut : Text.FirstCut "[][]".toList "x[][][]y".toList ['x'] "[]y".toList :=
    Text.firstCut_of_cutAt rfl
  obtain ⟨before, after, hcut', hcontent⟩ :=
    hplaced.found _ hreplaces ⟨['x'], "[]y".toList, rfl⟩
  obtain ⟨rfl, rfl⟩ := hcut.unique hcut'
  cases htag
  have hcontent' : content =
      "x<img src=\"/assets/images/a.png\" alt=\"[None]\" />[]y" :=
    String.toList_inj.1 hcontent
  rw [hcontent'] at hchanged
  exact ⟨edit, hedit, hchanged⟩

end Tool

end Sitewright
