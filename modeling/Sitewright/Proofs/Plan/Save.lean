import Sitewright.Proofs.Files.Frame
import Sitewright.Proofs.Json.Emitter
import Sitewright.Proofs.Json.Truncated
import Sitewright.Proofs.Plan.RoundTrip

namespace Sitewright

/-- What begins the bytes of plain characters is the bytes of some of them. -/
theorem Text.Plain.exists_encode {s : List Char} (h : Plain s) {part : List UInt8}
    (hp : part <+: Utf8.encode s) : ∃ t, t <+: s ∧ part = Utf8.encode t := by
  induction s generalizing part with
  | nil => exact ⟨[], List.prefix_refl _, List.prefix_nil.1 hp⟩
  | cons c s ih =>
    obtain ⟨hc, hs⟩ := List.forall_mem_cons.1 h
    rw [isPlain, Bool.and_eq_true, decide_eq_true_eq] at hc
    obtain ⟨b, hb⟩ : ∃ b, String.utf8EncodeChar c = [b] := by
      have hsize : c.utf8Size = 1 := Char.utf8Size_eq_one_iff.2 (Nat.le_of_lt_succ hc.1)
      exact ⟨_, String.utf8EncodeChar_eq_singleton hsize⟩
    rw [Utf8.encode_cons, hb] at hp
    cases part with
    | nil => exact ⟨[], List.nil_prefix, rfl⟩
    | cons first part =>
      obtain ⟨rfl, hrest⟩ := List.cons_prefix_cons.1 hp
      obtain ⟨t, ht, rfl⟩ := ih hs hrest
      exact ⟨c :: t, List.cons_prefix_cons.2 ⟨rfl, ht⟩, by rw [Utf8.encode_cons, hb]; rfl⟩

theorem Text.Utf8.encode_prefix {s t : List Char} (h : s <+: t) : encode s <+: encode t := by
  obtain ⟨rest, rfl⟩ := h
  rw [encode, encode, List.flatMap_append]
  exact List.prefix_append _ _

namespace Plan

variable {plan : Plan} {platform : Platform} {files : Files} {path other folder name : Path}

theorem bytes_eq (plan : Plan) :
    plan.bytes = Text.Utf8.encode (Json.textWith Json.indented 0 plan.toJson) := by
  rw [bytes, Json.indentedText, String.toList_ofList]

/-- What gets into the file of a plan, and the error of the disk if there is one. -/
def written (plan : Plan) (platform : Platform) (path : Path) : List UInt8 × Option FileError :=
  platform.disk.taken path (Text.Utf8.encode (plan.emitted platform.nesting).text)

/-- How keeping a plan goes: there is no folder for its file, the file cannot be opened, or
something is written into it. -/
inductive Saves (plan : Plan) (platform : Platform) (path : Path) (files : Files) : Saved → Prop
  | homeless {e : FileError} (hm : files.makeFolders path.dropLast = .error e) :
    Saves plan platform path files ⟨files, some (.reported ⟨path, .file e⟩)⟩
  | closed {made : Files} {e : FileError} (hm : files.makeFolders path.dropLast = .ok made)
    (hw : made.write path [] 0 = .error e) :
    Saves plan platform path files ⟨made, some (.reported ⟨path, .file e⟩)⟩
  | opened {made opened : Files} (hm : files.makeFolders path.dropLast = .ok made)
    (hw : made.write path [] 0 = .ok opened) :
    Saves plan platform path files
      ⟨made.put path (.file (plan.written platform path).1 0),
        failure? path (plan.written platform path).2 (plan.emitted platform.nesting).halt?⟩

theorem saves (plan : Plan) (platform : Platform) (path : Path) (files : Files) :
    Saves plan platform path files (plan.save platform path files) := by
  rw [save]
  cases hm : files.makeFolders path.dropLast with
  | error e => exact .homeless hm
  | ok made =>
    dsimp only
    cases hw : made.write path [] 0 with
    | error e => exact .closed hm hw
    | ok opened =>
      dsimp only
      rw [Files.eq_put_of_write hw, Files.put_put]
      exact .opened hm hw

/-- Only a part of a plan, if anything, gets into its file. -/
theorem written_prefix (plan : Plan) (platform : Platform) (path : Path) :
    (plan.written platform path).1 <+: plan.bytes := by
  have hpart : Text.Utf8.encode (plan.emitted platform.nesting).text <+: plan.bytes := by
    rw [bytes_eq]
    exact Text.Utf8.encode_prefix (Json.emits Json.indented plan.toJson _ 0).part
  rw [written, Disk.taken]
  split
  · exact hpart
  · exact (List.take_prefix _ _).trans hpart

variable {saved : Saved}

/-- Keeping a plan leaves what was elsewhere, and fills empty places on the way with folders. -/
theorem Saves.get?_of_ne (h : Saves plan platform path files saved) (hne : other ≠ path) :
    saved.files.get? other = files.get? other ∨
      files.get? other = none ∧ saved.files.get? other = some .folder ∧
        other <+: path.dropLast := by
  cases h with
  | homeless => exact .inl rfl
  | closed hm => exact Files.get?_makeFolders hm other
  | opened hm =>
    simpa [hne] using Files.get?_makeFolders hm other

theorem Saves.get?_of_isSome (h : Saves plan platform path files saved) (hne : other ≠ path)
    (hs : (files.get? other).isSome) : saved.files.get? other = files.get? other := by
  obtain he | ⟨hn, _⟩ := h.get?_of_ne hne
  · exact he
  · rw [hn] at hs
    cases hs

theorem Saves.isFile_of_ne (h : Saves plan platform path files saved) (hne : other ≠ path) :
    saved.files.isFile other = files.isFile other := by
  obtain he | ⟨hn, hf, _⟩ := h.get?_of_ne hne
  · rw [Files.isFile, he]
    rfl
  · rw [Files.isFile, Files.isFile, hn, hf]

theorem Saves.isFolder (h : Saves plan platform path files saved) (hn : ¬other <+: path) :
    saved.files.isFolder other = files.isFolder other := by
  have hne : other ≠ path := fun he => hn (he ▸ List.prefix_refl _)
  obtain he | ⟨_, _, hp⟩ := h.get?_of_ne hne
  · rw [Files.isFolder, he]
    rfl
  · exact absurd (hp.trans (List.dropLast_prefix path)) hn

theorem Saves.mem_listed (h : Saves plan platform path files saved) (hp : ¬folder <+: path) :
    name ∈ saved.files.listed folder ↔ name ∈ files.listed folder := by
  have hne : folder ++ name ≠ path := fun he => hp (he ▸ List.prefix_append folder name)
  rw [Files.mem_listed, Files.mem_listed, h.isFolder hp, h.isFile_of_ne hne]

/-- What is at the path of a plan after it was to be kept: what was there before, a folder, or a
file with some of the plan. -/
theorem Saves.get?_path (h : Saves plan platform path files saved) :
    saved.files.get? path = files.get? path ∨ saved.files.get? path = some .folder ∨
      ∃ part, part <+: plan.bytes ∧ saved.files.get? path = some (.file part 0) := by
  cases h with
  | homeless => exact .inl rfl
  | closed hm =>
    obtain he | ⟨-, hfolder, -⟩ := Files.get?_makeFolders hm path
    · exact .inl he
    · exact .inr (.inl hfolder)
  | opened =>
    apply Or.inr
    apply Or.inr
    refine ⟨_, plan.written_prefix platform path, ?_⟩
    simp

theorem failure?_eq_none_iff {full? : Option FileError} {halt? : Option Json.Halt} :
    failure? path full? halt? = none ↔ full? = none ∧ halt? = none := by
  cases full? with
  | some e => exact iff_of_false nofun nofun
  | none =>
    cases halt? with
    | none => exact iff_of_true rfl ⟨rfl, rfl⟩
    | some halt => cases halt <;> exact iff_of_false nofun nofun

/-- Whether all of a plan gets into its file: its integers are short, there is room for it, and the
disk takes it. -/
structure Fits (plan : Plan) (platform : Platform) (path : Path) : Prop where
  short : plan.toJson.long? = none
  shallow : plan.toJson.depth ≤ platform.nesting
  taken : platform.disk.limit? path plan.bytes = none

theorem Fits.written (h : plan.Fits platform path) :
    plan.written platform path = (plan.bytes, none) ∧
      (plan.emitted platform.nesting).halt? = none := by
  rw [Plan.written, emitted, Json.emit_eq h.short h.shallow]
  dsimp only
  rw [← bytes_eq, Disk.taken, h.taken]
  exact ⟨rfl, rfl⟩

theorem fits_of_written (hfull : (plan.written platform path).2 = none)
    (hhalt : (plan.emitted platform.nesting).halt? = none) : plan.Fits platform path := by
  have hemits := Json.emits Json.indented plan.toJson platform.nesting 0
  rw [emitted] at hhalt
  generalize he : Json.emit Json.indented platform.nesting 0 plan.toJson = e at hemits hhalt
  cases hemits with
  | long => cases hhalt
  | deep => cases hhalt
  | whole hl hd =>
    refine ⟨hl, hd, ?_⟩
    rw [written, emitted, he] at hfull
    dsimp only at hfull
    rw [← bytes_eq, Disk.taken] at hfull
    cases hlimit : platform.disk.limit? path plan.bytes with
    | none => rfl
    | some limit =>
      rw [hlimit] at hfull
      cases hfull

/-- A plan that is kept fits into its file, and all of it is there. -/
theorem Saves.kept (h : Saves plan platform path files saved) (hk : saved.failure? = none) :
    plan.Fits platform path ∧ saved.files.get? path = some (.file plan.bytes 0) := by
  cases h with
  | homeless => cases hk
  | closed => cases hk
  | opened =>
    obtain ⟨hfull, hhalt⟩ := failure?_eq_none_iff.1 hk
    have hfits := fits_of_written hfull hhalt
    refine ⟨hfits, ?_⟩
    simp [hfits.written.1]

/-- Only a plan that goes too deep breaks off whoever wants to keep it. -/
theorem Saves.deep (h : Saves plan platform path files saved) {e : Json.TooDeep}
    (hd : saved.failure? = some (.deep e)) : platform.nesting < plan.toJson.depth := by
  cases h with
  | homeless => cases hd
  | closed => cases hd
  | opened =>
    by_contra hroom
    have hshallow : (plan.emitted platform.nesting).halt? ≠ some (.deep e) :=
      Json.emit_ne_deep (Nat.not_lt.1 hroom)
    revert hd
    cases (plan.written platform path).2 with
    | some full => exact nofun
    | none =>
      cases hhalt : (plan.emitted platform.nesting).halt? with
      | none => exact nofun
      | some halt =>
        cases halt with
        | long => exact nofun
        | deep e' =>
          intro hd
          cases hd
          exact hshallow hhalt

/-- Whatever is loaded of a plan that has only in part got into its file is all of that plan. -/
theorem load_of_part {room : Nat} {part : List UInt8} {modified : Int} {loaded : Plan}
    {events : List Event} (hd : plan.toJson.Distinct) (hp : part <+: plan.bytes)
    (h : files.get? path = some (.file part modified))
    (hload : load room path files = .ok (some loaded, events)) :
    part = plan.bytes ∧ loaded = plan.restored := by
  rw [bytes_eq] at hp ⊢
  have hplain := Json.plain_textWith Json.plain_indented plan.toJson 0
  obtain ⟨s, hs, rfl⟩ := hplain.exists_encode hp
  have hplain' : Text.Plain s := fun c hc => hplain c (hs.subset hc)
  rw [load, if_pos (by rw [h]; rfl), readFile, Files.readJson, Files.readText,
    Files.read_of_get? h] at hload
  simp only [Files.textOfBytes_encode hplain', Except.mapError, Json.read_ofList hplain'] at hload
  cases hread : Json.readChars room s with
  | error e =>
    rw [hread] at hload
    cases e with
    | malformed => cases hload
    | halt e => cases e <;> cases hload
  | ok v =>
    rw [hread] at hload
    have hdocument := Json.readChars_eq_ok_iff.1 hread
    obtain ⟨rfl, hv⟩ := hdocument.eq_of_prefix Json.sound_indented hd hs
    obtain rfl : v = plan.toJson := hv
    refine ⟨rfl, ?_⟩
    dsimp only at hload
    rw [ofJson_toJson] at hload
    cases hload
    rfl

end Plan

end Sitewright
