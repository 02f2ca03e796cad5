import Sitewright.Proofs.Asset.Identity
import Sitewright.Proofs.Asset.Url
import Sitewright.Proofs.Service.Page

namespace Sitewright

variable {files : Files} {folder name : Path} {service : Service} {framework : Framework}
  {target : Target} {text : String} {bytes : List UInt8}

theorem infix_intercalate (sep : List Char) {part : List Char} {parts : List (List Char)}
    (h : part ∈ parts) : sep ++ part <:+: sep ++ sep.intercalate parts := by
  induction parts with
  | nil => cases h
  | cons first parts ih =>
    cases parts with
    | nil =>
      rw [List.mem_singleton.1 h, List.intercalate_singleton]
    | cons second parts =>
      rw [List.intercalate_cons_cons, List.append_assoc, ← List.append_assoc]
      obtain rfl | h := List.mem_cons.1 h
      · exact (List.prefix_append _ _).isInfix
      · exact (ih h).trans (List.suffix_append _ _).isInfix

/-- The model is told each name that is listed, on a line of its own. -/
theorem Prompt.infix_system {inventory : Inventory} (h : text ∈ inventory.files) :
    '\n' :: '-' :: ' ' :: text.toList <:+: (system inventory).toList := by
  have hsome : ¬inventory.files.isEmpty = true := fun hnone =>
    List.ne_nil_of_mem h (List.isEmpty_iff.1 hnone)
  have hline : '-' :: ' ' :: text.toList ∈
      (inventory.files.map ("- " ++ ·)).map String.toList :=
    List.mem_map.2 ⟨"- " ++ text, List.mem_map_of_mem h, String.toList_append⟩
  have hheader (rest : String) : "Available assets (relative to /assets):\n" ++ rest =
      "Available assets (relative to /assets):" ++ ("\n" ++ rest) := by
    rw [← String.append_assoc]
    rfl
  have hbehind {part : List Char} (front : String) {rest : String} (h : part <:+: rest.toList) :
      part <:+: (front ++ rest).toList := by
    rw [String.toList_append]
    exact h.trans (List.suffix_append _ _).isInfix
  rw [system, environment, assetList, if_neg hsome, hheader]
  apply hbehind
  apply hbehind
  apply hbehind
  rw [String.toList_append, String.toList_intercalate]
  exact infix_intercalate ['\n'] hline

/-- A name that leads to something is neither empty nor begins with a slash. -/
theorem Path.Legible.head?_text (h : name.Legible) (hleads : ∀ part ∈ name, Path.Leads part) :
    name.text ≠ "" ∧ name.text.toList.head? ≠ some '/' := by
  have hparts := h.splitOn_text
  have hsome : [] ∉ name.map String.toList := by
    intro hmem
    obtain ⟨part, hpart, hnil⟩ := List.mem_map.1 hmem
    obtain rfl := String.toList_eq_nil_iff.1 hnil
    exact hleads "" hpart (.head _)
  rw [← hparts] at hsome
  constructor
  · intro hempty
    rw [hempty] at hsome
    exact hsome (.head _)
  · intro hhead
    obtain ⟨rest, hrest⟩ := List.head?_eq_some_iff.1 hhead
    rw [hrest, List.splitOn, List.splitOnP_cons_eq_if_modifyHead,
      if_pos (beq_self_eq_true '/')] at hsome
    exact hsome (.head _)

/-- Whether a framework answers a request with the file to which names lead from a folder. -/
def Framework.ServesFiles (framework : Framework) : Prop :=
  ∀ (folder name : Path) (files : Files) (bytes : List UInt8),
    files.isFolder folder = true → (∀ part ∈ name, Path.Leads part) →
      files.read (folder ++ name) = .ok bytes →
      framework.file folder "GET" name files = .ok ⟨200, .asset (folder ++ name) bytes⟩

theorem Framework.servesFiles_ofFile : Framework.ServesFiles {} := by
  intro folder name files bytes hfolder hleads hread
  have hfollow : folder.follow name = folder ++ name := Path.follow_eq_append hleads
  have hinside : folder.isPrefixOf (folder ++ name) = true :=
    List.isPrefixOf_iff_prefix.2 (List.prefix_append _ _)
  show Response.ofFile folder "GET" name files = _
  rw [Response.ofFile, if_pos hfolder, if_pos (.inl rfl), hfollow]
  dsimp only
  rw [hinside, hread]

namespace Service

theorem respond_asset (hserves : framework.ServesFiles) (hfiles : files.Ordinary)
    (hname : name ∈ files.contents service.compiler.settings.assets)
    (hread : files.read (service.compiler.settings.assets ++ name) = .ok bytes)
    (htarget : target.path = assetsPath ++ name.text) (hline : '\n' ∉ name.text.toList)
    (hm : target.path ∉ framework.pages.keys) (now : Moment) :
    (service.respond framework "GET" target now files).response =
      .ok ⟨200, .asset (service.compiler.settings.assets ++ name) bytes⟩ := by
  have hpath : '\n' ∉ target.path.toList := by
    rw [htarget, String.toList_append, List.mem_append, not_or]
    exact ⟨by decide, hline⟩
  have hcontains : ¬target.path.toList.contains '\n' = true :=
    fun h => hpath (List.contains_iff_mem.1 h)
  have hnames := (hfiles.named.legible hname).splitOn_text
  have hbelow : target.below? assetsPath = some name := by
    have hstart : assetsPath.toList.isPrefixOf (assetsPath.toList ++ name.text.toList) = true :=
      List.isPrefixOf_iff_prefix.2 (List.prefix_append _ _)
    have hrest :
        (assetsPath.toList ++ name.text.toList).drop assetsPath.length = name.text.toList :=
      List.drop_left
    have hback : (name.map String.toList).map String.ofList = name := by
      rw [List.map_map]
      exact List.map_id'' (fun _ => String.ofList_toList) name
    rw [Target.below?, htarget, String.toList_append, if_pos hstart, hrest, Target.splitOn]
    exact congrArg some ((congrArg (List.map String.ofList) hnames).trans hback)
  rw [respond_eq_answer service hpath hm, answer, endOf_of_oneLine hpath, if_neg hcontains, hbelow]
  exact hserves _ _ _ _ hname.1 (hfiles.leads_of_mem hname) hread

/-- The names that the model is told are those of files, each of which is served under its name
below the folder of assets. A reference by such a name is to this very address if the name begins
with the folder of images and has no backslash, and by any other name it is to another one. -/
theorem listed_name_is_its_reference_iff (hserves : framework.ServesFiles)
    (hfiles : files.Ordinary) (service : Service) (now : Moment) :
    let folder := service.compiler.settings.assets
    let inventory := Inventory.scan files folder
    (∀ text : String, text.toList.head? ≠ some '/' →
      (Asset.url text = assetsPath ++ text ↔
        "images/".toList <+: text.toList ∧ '\\' ∉ text.toList)) ∧
    ∀ text ∈ inventory.files, (text ≠ "" ∧ text.toList.head? ≠ some '/') ∧
      '\n' :: '-' :: ' ' :: text.toList <:+: (Prompt.system inventory).toList ∧
      ∃ name ∈ files.contents folder, name.text = text ∧
        ∃ bytes, files.read (folder ++ name) = .ok bytes ∧
          ('\n' ∉ text.toList → assetsPath ++ text ∉ framework.pages.keys → ∀ parameters,
            (service.respond framework "GET" ⟨assetsPath ++ text, parameters⟩ now files).response =
              .ok ⟨200, .asset (folder ++ name) bytes⟩) := by
  intro folder inventory
  constructor
  · intro text hhead
    apply Iff.trans _ (Asset.urlChars_eq_own_iff hhead)
    rw [Asset.url, ← String.toList_inj, String.toList_ofList, String.toList_append]
    rfl
  · intro text htext
    obtain ⟨name, hname, rfl⟩ := Inventory.mem_files_scan.1 htext
    obtain ⟨-, bytes, modified, hget⟩ := Files.exists_of_mem_contents hname
    have hread : files.read (folder ++ name) = .ok bytes := Files.read_of_get? hget
    refine ⟨?_, Prompt.infix_system htext, name, hname, rfl, bytes, hread, ?_⟩
    · exact (hfiles.named.legible hname).head?_text (hfiles.leads_of_mem hname)
    · intro hline hm parameters
      exact respond_asset hserves hfiles hname hread rfl hline hm now

/-- A folder with an image, one outside of the folder of images, and one with a backslash. -/
def album : Files :=
  ⟨[([], .folder), (["assets"], .folder), (["assets", "images"], .folder),
    (["assets", "images", "a b.png"], .file [1] 5),
    (["assets", "images", "dark\\c.png"], .file [2] 5), (["assets", "logo.svg"], .file [3] 5)],
    by decide⟩

def exhibition : Service :=
  { compiler := { settings := .standard [], client := .own fun _ => .ok [] } }

theorem listed_name_is_its_reference_iff_album :
    let get (text : String) := (exhibition.respond {} "GET" ⟨text, []⟩ default album).response
    (Asset.url "images/a b.png" = "/assets/images/a b.png" ∧
      get "/assets/images/a b.png" = .ok ⟨200, .asset ["assets", "images", "a b.png"] [1]⟩) ∧
    (Asset.url "logo.svg" ≠ "/assets/logo.svg" ∧
      get "/assets/logo.svg" = .ok ⟨200, .asset ["assets", "logo.svg"] [3]⟩) ∧
    Asset.url "images/dark\\c.png" ≠ "/assets/images/dark\\c.png" := by
  have hfiles : album.Ordinary := by decide
  have hfolder : exhibition.compiler.settings.assets = ["assets"] := rfl
  obtain ⟨hown, hlisted⟩ :=
    listed_name_is_its_reference_iff Framework.servesFiles_ofFile hfiles exhibition default
  rw [hfolder] at hlisted
  have hserved {name : Path} {path : String} {bytes : List UInt8}
      (hname : name ∈ album.contents ["assets"]) (hline : '\n' ∉ name.text.toList)
      (hpath : assetsPath ++ name.text = path)
      (hread : album.read (["assets"] ++ name) = .ok bytes) :
      (exhibition.respond {} "GET" ⟨path, []⟩ default album).response =
        .ok ⟨200, .asset (["assets"] ++ name) bytes⟩ := by
    subst hpath
    obtain ⟨-, -, other, hother, htext, bytes', hread', hanswer⟩ :=
      hlisted name.text (Inventory.mem_files_scan.2 ⟨name, hname, rfl⟩)
    have hlegible := hfiles.named.legible hname
    obtain rfl := (hfiles.named.legible hother).eq_of_text hlegible htext
    rw [Except.ok.inj (hread.symm.trans hread')]
    exact hanswer hline List.not_mem_nil []
  have himage : ["images", "a b.png"] ∈ album.contents ["assets"] := ⟨by decide, by decide⟩
  have hlogo : ["logo.svg"] ∈ album.contents ["assets"] := ⟨by decide, by decide⟩
  refine ⟨⟨(hown _ (by decide)).2 (by decide), ?_⟩, ⟨?_, ?_⟩, ?_⟩
  · exact hserved himage (by decide) (by decide) rfl
  · intro h
    exact absurd ((hown "logo.svg" (by decide)).1 h).1 (by decide)
  · exact hserved hlogo (by decide) (by decide) rfl
  · intro h
    exact absurd ((hown "images/dark\\c.png" (by decide)).1 h).2 (by decide)

end Service

end Sitewright
