import Sitewright.Proofs.Text.Markup
import Sitewright.Proofs.Tool.Halt

namespace Sitewright

variable {v : Json}

theorem Json.shown_eq (h : ¬v.Overlong) : v.shown = .ok v.display := if_neg h

theorem Json.shownOrEmpty_eq (h : ¬v.Overlong) :
    v.shownOrEmpty = .ok (if v.null? then "" else v.display) := by
  rw [shownOrEmpty, shown_eq h]
  split <;> rfl

namespace Image

/-- An attribute that is there just if its value counts as given. -/
def given (name : String) (value : Json) : List (String × String) :=
  if value.truthy then [(name, value.display)] else []

/-- The attributes that an image is to have, in their order. -/
def described (image : Image) : List (String × String) :=
  [("src", Asset.url image.asset), ("alt", if image.alt.null? then "" else image.alt.display)] ++
    given "class" image.className ++ given "width" image.width ++ given "height" image.height

/-- Whether an integer inside a value of an image is too long to be shown. -/
def Overlong (image : Image) : Prop :=
  image.alt.Overlong ∨ image.className.Overlong ∨ image.width.Overlong ∨ image.height.Overlong

variable {image : Image}

theorem optional_eq (h : ¬v.Overlong) (name : String) : optional name v = .ok (given name v) := by
  rw [optional, given, Json.shown_eq h]
  split <;> rfl

theorem attributes_eq (h : ¬image.Overlong) : image.attributes = .ok image.described := by
  simp only [Overlong, not_or] at h
  obtain ⟨halt, hclass, hwidth, hheight⟩ := h
  rw [attributes, Json.shownOrEmpty_eq halt, optional_eq hclass, optional_eq hwidth,
    optional_eq hheight]
  rfl

theorem tag_eq (h : ¬image.Overlong) :
    image.tag = .ok (String.ofList (Text.emptyTag "img" image.described)) := by
  rw [tag, attributes_eq h]
  rfl

theorem name_of_mem_given {name : String} {a : String × String} (h : a ∈ given name v) :
    a.1 = name := by
  rw [given] at h
  split at h
  · rw [List.mem_singleton.1 h]
  · cases h

theorem isAttributeName_of_mem_described :
    ∀ a ∈ image.described, Text.IsAttributeName a.1 := by
  intro a ha
  have hname : a.1 ∈ ["src", "alt", "class", "width", "height"] := by
    simp only [described, List.mem_append, List.mem_cons, List.not_mem_nil, or_false] at ha ⊢
    obtain (((rfl | rfl) | ha) | ha) | ha := ha
    · exact .inl rfl
    · exact .inr (.inl rfl)
    · exact .inr (.inr (.inl (name_of_mem_given ha)))
    · exact .inr (.inr (.inr (.inl (name_of_mem_given ha))))
    · exact .inr (.inr (.inr (.inr (name_of_mem_given ha))))
  have hletters : ∀ name ∈ ["src", "alt", "class", "width", "height"],
      name.toList.all Char.isAlpha = true := by decide
  exact List.all_eq_true.1 (hletters _ hname)

theorem attributesOf?_tag (image : Image) :
    Text.attributesOf? "img" (Text.emptyTag "img" image.described) = some image.described :=
  Text.attributesOf?_emptyTag "img" isAttributeName_of_mem_described nofun

end Image

namespace Tool

variable {args : Fields} {path asset : String}

theorem edit_addAsset_eq (hpath : pathArgument args = .ok path)
    (hasset : nonEmptyArgument args "asset" .asset = .ok asset)
    (h : ¬(imageArgument args asset).Overlong) :
    addAsset.edit args = .ok (.fragment path
      (String.ofList (Text.emptyTag "img" (imageArgument args asset).described))
      (placementArgument args)) := by
  simp only [edit, hpath, hasset]
  change (do
    let piece ← (imageArgument args asset).tag.mapError ArgumentsError.long
    return Edit.fragment path piece (placementArgument args)) = _
  rw [Image.tag_eq h]
  rfl

/-- No value gets out of the tag of an image. The tag opens with its first character and closes
with its last, whatever is in it; and reading it back, with each name of a character decoded once,
gives the address, the other text, and those of class, width and height that are given. A value is
escaped as by five replacements, the ampersands first. Only an integer that is too long to be
shown keeps the tag from being made. -/
theorem image_tag_holds_its_attributes (hpath : pathArgument args = .ok path)
    (hasset : nonEmptyArgument args "asset" .asset = .ok asset) :
    (∀ value, value.flatMap Text.escapeMarkup = Text.escapedInTurn value) ∧
    ((imageArgument args asset).Overlong → addAsset.edit args = .error (.long .shown)) ∧
    (¬(imageArgument args asset).Overlong →
      ∃ middle, addAsset.edit args = .ok (.fragment path (String.ofList ('<' :: middle ++ ['>']))
          (placementArgument args)) ∧
        (∀ c ∈ middle, c ≠ '<' ∧ c ≠ '>') ∧
        Text.attributesOf? "img" ('<' :: middle ++ ['>']) =
          some (imageArgument args asset).described) := by
  refine ⟨fun value => (Text.escapedInTurn_eq value).symm, fun hlong => ?_, fun hshort => ?_⟩
  · rw [edit_eq_halt_iff]
    exact ⟨rfl, ⟨path, hpath⟩, ⟨asset, hasset⟩, hlong⟩
  · have himg : Text.IsAttributeName "img" := List.all_eq_true.1 (by decide)
    obtain ⟨middle, htag, hmiddle⟩ :=
      Text.exists_emptyTag_eq himg (Image.isAttributeName_of_mem_described)
    have hedit := edit_addAsset_eq hpath hasset hshort
    have hread := (imageArgument args asset).attributesOf?_tag
    rw [htag] at hedit hread
    exact ⟨middle, hedit, hmiddle, hread⟩

/-- An image whose texts try to end the tag, and one that is an entity already. -/
def hostileImage : Fields :=
  [("path", .str "/"), ("asset", .str "a\"><b.png"), ("alt", .str "'/> &quot;<"),
    ("className", .arr []), ("height", .arr [.str "\" onload=\"", .bool true])]

theorem image_tag_holds_its_attributes_hostile :
    ∃ piece, addAsset.edit hostileImage = .ok (.fragment "/" (String.ofList piece) .last) ∧
      Text.attributesOf? "img" piece =
        some [("src", "/assets/images/a\"><b.png"), ("alt", "'/> &quot;<"),
          ("height", "['\" onload=\"', True]")] := by
  have hpath : pathArgument hostileImage = .ok "/" := rfl
  have hasset : nonEmptyArgument hostileImage "asset" .asset = .ok "a\"><b.png" := rfl
  obtain ⟨-, -, h⟩ := image_tag_holds_its_attributes hpath hasset
  have hshort : ¬(imageArgument hostileImage "a\"><b.png").Overlong := by
    rintro (h | h | h | h) <;> cases h
  obtain ⟨middle, hedit, -, hread⟩ := h hshort
  exact ⟨_, hedit, hread⟩

end Tool

end Sitewright
