import Mathlib.Data.List.Forall2
import Sitewright.Asset.Url

namespace Sitewright.Asset

variable {ref other front : List Char} {c d : Char}

/-- Whether a character stands between the names of a reference. -/
def IsSlash (c : Char) : Prop := c = '/' ∨ c = '\\'

instance : DecidablePred IsSlash := fun c => inferInstanceAs (Decidable (c = '/' ∨ c = '\\'))

/-- Whether two characters count as one in references. -/
def Alike (c d : Char) : Prop := c = d ∨ IsSlash c ∧ IsSlash d

instance : DecidableRel Alike := fun c d =>
  inferInstanceAs (Decidable (c = d ∨ IsSlash c ∧ IsSlash d))

/-- Whether a reference begins with a character that is no slash, if with any. -/
def Bare (ref : List Char) : Prop := ∀ c ∈ ref.head?, ¬IsSlash c

instance : DecidablePred Bare := fun ref => Option.decidableForallMem ref.head?

/-- A character as addresses have it. -/
def forward (c : Char) : Char := if c = '\\' then '/' else c

theorem forward_ne (c : Char) : forward c ≠ '\\' := by
  rw [forward]
  split
  · decide
  · next h => exact h

theorem forward_eq_self (h : c ≠ '\\') : forward c = c := if_neg h

theorem forward_eq_slash_iff : forward c = '/' ↔ IsSlash c := by
  rw [forward, IsSlash]
  split
  · next h => exact iff_of_true rfl (.inr h)
  · next h => exact (or_iff_left h).symm

theorem Alike.forward_eq (h : Alike c d) : forward c = forward d := by
  obtain rfl | ⟨hc, hd⟩ := h
  · rfl
  · rw [forward_eq_slash_iff.2 hc, forward_eq_slash_iff.2 hd]

theorem map_forward_eq_self (h : '\\' ∉ ref) : ref.map forward = ref := by
  have hsame : ∀ c ∈ ref, forward c = id c := by
    intro c hc
    exact forward_eq_self (ne_of_mem_of_not_mem hc h)
  rw [List.map_congr_left hsame, List.map_id]

theorem map_forward_congr (h : List.Forall₂ Alike ref other) :
    ref.map forward = other.map forward := by
  induction h with
  | nil => rfl
  | cons hc _ ih => rw [List.map_cons, List.map_cons, hc.forward_eq, ih]

theorem Bare.append (h : Bare front) (hne : front ≠ []) (ref : List Char) :
    Bare (front ++ ref) := by
  obtain ⟨c, rest, rfl⟩ := List.exists_cons_of_ne_nil hne
  exact h

theorem cleaned_eq (ref : List Char) :
    cleaned ref = (ref.map forward).dropWhile (· == '/') := rfl

theorem not_mem_cleaned (ref : List Char) : '\\' ∉ cleaned ref := by
  intro h
  obtain ⟨c, -, hc⟩ := List.mem_map.1 ((List.dropWhile_sublist _).mem h)
  exact forward_ne c hc

theorem cleaned_append_of_slashes (h : ∀ c ∈ front, IsSlash c) (ref : List Char) :
    cleaned (front ++ ref) = cleaned ref := by
  have hslash : ∀ c ∈ front.map forward, (c == '/') = true := by
    intro c hc
    obtain ⟨d, hd, rfl⟩ := List.mem_map.1 hc
    exact beq_iff_eq.2 (forward_eq_slash_iff.2 (h d hd))
  rw [cleaned_eq, List.map_append, List.dropWhile_append_of_pos hslash, ← cleaned_eq]

theorem cleaned_congr (h : List.Forall₂ Alike ref other) : cleaned ref = cleaned other := by
  rw [cleaned_eq, cleaned_eq, map_forward_congr h]

theorem Bare.cleaned_eq (h : Bare ref) : cleaned ref = ref.map forward := by
  cases ref with
  | nil => rfl
  | cons c rest =>
    have hc : ¬(forward c == '/') = true := by
      intro hslash
      exact h c rfl (forward_eq_slash_iff.1 (beq_iff_eq.1 hslash))
    exact List.dropWhile_cons_of_neg hc

theorem Bare.cleaned_eq_self (h : Bare ref) (hforward : '\\' ∉ ref) : cleaned ref = ref := by
  rw [h.cleaned_eq, map_forward_eq_self hforward]

theorem Bare.cleaned_append (h : Bare ref) (hfront : Bare front) (hne : front ≠ [])
    (hforward : '\\' ∉ front) : cleaned (front ++ ref) = front ++ cleaned ref := by
  rw [(hfront.append hne ref).cleaned_eq, List.map_append, map_forward_eq_self hforward,
    h.cleaned_eq]

theorem bare_folder : Bare folder := by decide

theorem bare_imageFolder : Bare imageFolder := by decide

theorem urlChars_of_folder (h : folder <+: cleaned ref) : urlChars ref = '/' :: cleaned ref :=
  if_pos (List.isPrefixOf_iff_prefix.2 h)

theorem urlChars_of_imageFolder (h : imageFolder <+: cleaned ref) :
    urlChars ref = '/' :: folder ++ cleaned ref := by
  obtain ⟨rest, hrest⟩ := h
  rw [urlChars, ← hrest]
  rfl

theorem urlChars_of_other (hfolder : ¬folder <+: cleaned ref)
    (himage : ¬imageFolder <+: cleaned ref) :
    urlChars ref = '/' :: folder ++ imageFolder ++ cleaned ref := by
  rw [← List.isPrefixOf_iff_prefix] at hfolder himage
  rw [urlChars, if_neg hfolder, if_neg himage]

/-- A reference is to the folder of assets, to that of images in it, or to something else. -/
theorem urlChars_cases (ref : List Char) :
    (folder <+: cleaned ref ∧ urlChars ref = '/' :: cleaned ref) ∨
      (imageFolder <+: cleaned ref ∧ urlChars ref = '/' :: folder ++ cleaned ref) ∨
        urlChars ref = '/' :: folder ++ imageFolder ++ cleaned ref := by
  by_cases hfolder : folder <+: cleaned ref
  · exact .inl ⟨hfolder, urlChars_of_folder hfolder⟩
  by_cases himage : imageFolder <+: cleaned ref
  · exact .inr (.inl ⟨himage, urlChars_of_imageFolder himage⟩)
  · exact .inr (.inr (urlChars_of_other hfolder himage))

/-- Whether a text is an address below the folder of assets, with forward slashes only. -/
structure IsUrl (url : List Char) : Prop where
  below : '/' :: folder <+: url
  forward : '\\' ∉ url

theorem isUrl_urlChars (ref : List Char) : IsUrl (urlChars ref) := by
  have hclean := not_mem_cleaned ref
  obtain ⟨hfolder, hurl⟩ | ⟨-, hurl⟩ | hurl := urlChars_cases ref
  · rw [hurl]
    constructor
    · exact List.cons_prefix_cons.2 ⟨rfl, hfolder⟩
    · rw [List.mem_cons, not_or]
      exact ⟨by decide, hclean⟩
  · rw [hurl]
    constructor
    · exact List.prefix_append _ _
    · rw [List.mem_append, not_or]
      exact ⟨by decide, hclean⟩
  · rw [hurl, List.append_assoc]
    constructor
    · exact List.prefix_append _ _
    · rw [List.mem_append, List.mem_append, not_or, not_or]
      exact ⟨by decide, by decide, hclean⟩

/-- An address is its own address. -/
theorem IsUrl.urlChars_eq {url : List Char} (h : IsUrl url) : urlChars url = url := by
  obtain ⟨name, rfl⟩ := h.below
  have hslash : ∀ c ∈ ['/'], IsSlash c := List.forall_mem_singleton.2 (.inl rfl)
  have hforward : '\\' ∉ folder ++ name := fun hmem => h.forward (List.mem_cons_of_mem _ hmem)
  have hbare : Bare (folder ++ name) := bare_folder.append (List.cons_ne_nil _ _) name
  have hclean : cleaned ('/' :: folder ++ name) = folder ++ name := by
    calc
      cleaned ('/' :: folder ++ name) = cleaned (['/'] ++ (folder ++ name)) := rfl
      _ = cleaned (folder ++ name) := cleaned_append_of_slashes hslash _
      _ = folder ++ name := hbare.cleaned_eq_self hforward
  have hfolder : folder <+: cleaned ('/' :: folder ++ name) := by
    rw [hclean]
    exact List.prefix_append folder name
  rw [urlChars_of_folder hfolder, hclean]
  rfl

theorem urlChars_congr (h : cleaned ref = cleaned other) : urlChars ref = urlChars other := by
  rw [urlChars, urlChars, h]

/-- A name of an image has one address, with and without the folders that it is in. -/
theorem urlChars_spelled_out (h : Bare ref) (hfolder : ¬folder <+: cleaned ref)
    (himage : ¬imageFolder <+: cleaned ref) :
    urlChars (imageFolder ++ ref) = urlChars ref ∧
      urlChars (folder ++ (imageFolder ++ ref)) = urlChars ref := by
  have hin : cleaned (imageFolder ++ ref) = imageFolder ++ cleaned ref :=
    h.cleaned_append bare_imageFolder (List.cons_ne_nil _ _) (by decide)
  have hbare : Bare (imageFolder ++ ref) := bare_imageFolder.append (List.cons_ne_nil _ _) ref
  have hbelow : cleaned (folder ++ (imageFolder ++ ref)) =
      folder ++ (imageFolder ++ cleaned ref) := by
    rw [hbare.cleaned_append bare_folder (List.cons_ne_nil _ _) (by decide), hin]
  have himages : imageFolder <+: cleaned (imageFolder ++ ref) := by
    rw [hin]
    exact List.prefix_append imageFolder _
  have hassets : folder <+: cleaned (folder ++ (imageFolder ++ ref)) := by
    rw [hbelow]
    exact List.prefix_append folder _
  rw [urlChars_of_other hfolder himage, List.append_assoc]
  constructor
  · rw [urlChars_of_imageFolder himages, hin]
  · rw [urlChars_of_folder hassets, hbelow, List.cons_append]

/-- A name below the folder of assets is a reference to what it names only if that is an image. -/
theorem urlChars_eq_own_iff (h : ref.head? ≠ some '/') :
    urlChars ref = '/' :: folder ++ ref ↔ imageFolder <+: ref ∧ '\\' ∉ ref := by
  have hclean (hforward : '\\' ∉ ref) : cleaned ref = ref := by
    apply Bare.cleaned_eq_self _ hforward
    rintro c hc (rfl | rfl)
    · exact h hc
    · exact hforward (List.mem_of_mem_head? hc)
  constructor
  · intro hown
    have hforward : '\\' ∉ ref := by
      intro hmem
      apply (isUrl_urlChars ref).forward
      rw [hown]
      exact List.mem_append_right _ hmem
    refine ⟨?_, hforward⟩
    -- Elsewhere the address has a folder less or a folder more.
    have hfolder : ('/' :: folder).length = 8 := rfl
    have himages : imageFolder.length = 7 := rfl
    obtain ⟨-, hurl⟩ | ⟨himage, -⟩ | hurl := urlChars_cases ref
    · have hlength := congrArg List.length (hurl.symm.trans hown)
      rw [hclean hforward, List.length_append, List.length_cons] at hlength
      omega
    · exact hclean hforward ▸ himage
    · have hlength := congrArg List.length (hurl.symm.trans hown)
      rw [hclean hforward, List.length_append, List.length_append, List.length_append] at hlength
      omega
  · rintro ⟨himage, hforward⟩
    rw [← hclean hforward] at himage
    rw [urlChars_of_imageFolder himage, hclean hforward]

/-- A reference has one address, below the folder of assets and with forward slashes only, which is
its own address. Slashes in front of a reference do not count, nor does their kind anywhere; and a
name in no folder of its own has one address with and without the folders of images and assets. -/
theorem url_is_canonical (ref : String) :
    ("/assets/".toList <+: (url ref).toList ∧ '\\' ∉ (url ref).toList) ∧
    url (url ref) = url ref ∧
    (∀ front : String, (∀ c ∈ front.toList, IsSlash c) → url (front ++ ref) = url ref) ∧
    (∀ other : String, List.Forall₂ Alike ref.toList other.toList → url other = url ref) ∧
    (Bare ref.toList → ¬"assets/".toList <+: cleaned ref.toList →
      ¬"images/".toList <+: cleaned ref.toList →
        url ("images/" ++ ref) = url ref ∧ url ("assets/images/" ++ ref) = url ref) := by
  have hurl := isUrl_urlChars ref.toList
  have htext (text : String) : (url text).toList = urlChars text.toList := String.toList_ofList
  have heq {text : String} (h : urlChars text.toList = urlChars ref.toList) : url text = url ref :=
    congrArg String.ofList h
  refine ⟨⟨?_, ?_⟩, ?_, ?_, ?_, ?_⟩
  · rw [htext]
    exact hurl.below
  · rw [htext]
    exact hurl.forward
  · apply heq
    rw [htext]
    exact hurl.urlChars_eq
  · intro front hfront
    apply heq
    rw [String.toList_append]
    exact urlChars_congr (cleaned_append_of_slashes hfront ref.toList)
  · intro other hother
    exact heq (urlChars_congr (cleaned_congr hother)).symm
  · intro hbare hfolder himage
    obtain ⟨hin, hbelow⟩ := urlChars_spelled_out hbare hfolder himage
    constructor
    · apply heq
      rw [String.toList_append]
      exact hin
    · apply heq
      rw [String.toList_append]
      exact hbelow

theorem url_is_canonical_mixed :
    let same (ref : String) := url ref = "/assets/images/icons/dark/logo.svg"
    same "\\/icons\\dark/logo.svg" ∧ same "icons/dark\\logo.svg" ∧
      same "images/icons\\dark/logo.svg" ∧ same "assets/images/icons\\dark/logo.svg" := by
  have hvalue : url "icons\\dark/logo.svg" = "/assets/images/icons/dark/logo.svg" := by decide
  obtain ⟨-, -, hfront, hkind, hnamed⟩ := url_is_canonical "icons\\dark/logo.svg"
  obtain ⟨himage, hbelow⟩ := hnamed (by decide) (by decide) (by decide)
  have hslashes : ∀ c ∈ ['\\', '/'], IsSlash c :=
    List.forall_mem_cons.2 ⟨.inr rfl, List.forall_mem_singleton.2 (.inl rfl)⟩
  refine ⟨?_, ?_, himage.trans hvalue, hbelow.trans hvalue⟩
  · exact (hfront "\\/" hslashes).trans hvalue
  · exact (hkind "icons/dark\\logo.svg" (by decide)).trans hvalue

end Sitewright.Asset
