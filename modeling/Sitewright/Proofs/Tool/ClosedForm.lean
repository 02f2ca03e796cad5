import Mathlib.Data.List.Forall2
import Sitewright.Proofs.Except
import Sitewright.Proofs.Site.OfEdits
import Sitewright.Proofs.Tool.Replay

namespace Sitewright

variable {tool : Tool} {args : Fields} {edit : Edit} {call : ToolCall} {calls : List ToolCall}
  {interpreter : Interpreter} {r : Replay}

theorem exists_of_mapError_bind {δ ε α β : Type} {x : Except δ α} {g : δ → ε}
    {f : α → Except ε β} {b : β} (h : x.mapError g >>= f = .ok b) :
    ∃ a, x = .ok a ∧ f a = .ok b := by
  cases x with
  | error e => cases h
  | ok a => exact ⟨a, rfl, h⟩

namespace Tool

/-- Which tool makes a change, and of which arguments. -/
def Makes (tool : Tool) (args : Fields) : Edit → Prop
  | .content path text =>
    tool = createPage ∧ pathArgument args = .ok path ∧
      textArgument args "content" .content = .ok text
  | .rule path rule =>
    tool = addDynamicContent ∧ pathArgument args = .ok path ∧
      nonEmptyArgument args "placeholder" .placeholder = .ok rule.placeholder ∧
      kindArgument args = .ok rule.kind
  | .fragment path piece placement =>
    tool = addAsset ∧ pathArgument args = .ok path ∧ placement = placementArgument args ∧
      ∃ asset, nonEmptyArgument args "asset" .asset = .ok asset ∧
        (imageArgument args asset).tag = .ok piece
  | .layout new =>
    tool = setLayout ∧ htmlArgument args "header_html" = .ok new.header ∧
      htmlArgument args "footer_html" = .ok new.footer

theorem makes_of_edit (h : tool.edit args = .ok edit) : tool.Makes args edit := by
  cases tool with
  | createPage =>
    obtain ⟨path, hpath, h⟩ := exists_of_mapError_bind h
    obtain ⟨content, hcontent, h⟩ := exists_of_mapError_bind h
    cases h
    exact ⟨rfl, hpath, hcontent⟩
  | addDynamicContent =>
    obtain ⟨path, hpath, h⟩ := exists_of_mapError_bind h
    obtain ⟨placeholder, hplaceholder, h⟩ := exists_of_mapError_bind h
    obtain ⟨kind, hkind, h⟩ := exists_of_bind h
    cases h
    exact ⟨rfl, hpath, hplaceholder, hkind⟩
  | addAsset =>
    obtain ⟨path, hpath, h⟩ := exists_of_mapError_bind h
    obtain ⟨asset, hasset, h⟩ := exists_of_mapError_bind h
    obtain ⟨piece, hpiece, h⟩ := exists_of_mapError_bind h
    cases h
    exact ⟨rfl, hpath, rfl, asset, hasset, hpiece⟩
  | setLayout =>
    obtain ⟨header, hheader, h⟩ := exists_of_mapError_bind h
    obtain ⟨footer, hfooter, h⟩ := exists_of_mapError_bind h
    cases h
    exact ⟨rfl, hheader, hfooter⟩

end Tool

namespace Interpreter

/-- Whether a call means a known tool and gives it arguments of which it makes this change. -/
def Requests (interpreter : Interpreter) (call : ToolCall) (edit : Edit) : Prop :=
  ∃ tool args, interpreter.registry.get? call.label = some tool ∧
    arguments interpreter.nesting call.arguments = .ok args ∧ tool.Makes args edit

theorem requests_of_judge (h : interpreter.judge call = .ok (.accepted edit)) :
    interpreter.Requests call edit := by
  unfold judge at h
  split at h
  · cases h
  · split at h
    · cases h
    · next tool htool =>
      split at h
      · cases h
      · cases h
      · next args hargs =>
        split at h
        · next made hmade =>
          cases h
          exact ⟨tool, args, htool, hargs, Tool.makes_of_edit hmade⟩
        · cases h
        · cases h

end Interpreter

/-- The calls that a replay did not skip. -/
def Replay.remaining (r : Replay) (calls : List ToolCall) : List ToolCall :=
  (calls.zipIdx.filter fun entry => entry.2 ∉ r.skipped.map Skipped.index).map (·.1)

namespace Interpreter

theorem index_mem_skipped_iff (interpreter : Interpreter) {entry : ToolCall × Nat}
    (he : entry ∈ calls.zipIdx) :
    entry.2 ∈ (calls.zipIdx.filterMap interpreter.skip?).map Skipped.index ↔
      (interpreter.skip? entry).isSome = true := by
  have hindex {other : ToolCall × Nat} {s : Skipped} (h : interpreter.skip? other = some s) :
      s.index = other.2 := by
    unfold skip? at h
    split at h
    · exact Option.some.inj h ▸ rfl
    · cases h
  rw [List.mem_map]
  constructor
  · rintro ⟨s, hs, hi⟩
    obtain ⟨other, hother, hskip⟩ := List.mem_filterMap.1 hs
    have hsame : other = entry := by
      have hplace : other.2 = entry.2 := (hindex hskip).symm.trans hi
      have h := List.mk_mem_zipIdx_iff_getElem?.1 he
      have h' := List.mk_mem_zipIdx_iff_getElem?.1 hother
      rw [hplace] at h'
      exact Prod.ext (Option.some.inj (h'.symm.trans h)) hplace
    rw [← hsame, hskip]
    rfl
  · intro h
    obtain ⟨s, hs⟩ := Option.isSome_iff_exists.1 h
    exact ⟨s, List.mem_filterMap.2 ⟨entry, he, hs⟩, hindex hs⟩

/-- The calls that are not skipped are the ones that are carried out. -/
theorem remaining_eq (h : interpreter.replay calls = .ok r) :
    r.remaining calls = calls.filter fun call => (interpreter.edit? call).isSome := by
  have hjudged := (exists_replay_iff interpreter calls).1 ⟨r, h⟩
  rw [Replay.remaining, replay_eq h, outcome]
  have hfilter : calls.zipIdx.filter (fun entry =>
        entry.2 ∉ (calls.zipIdx.filterMap interpreter.skip?).map Skipped.index) =
      calls.zipIdx.filter ((fun call => (interpreter.edit? call).isSome) ∘ Prod.fst) := by
    apply List.filter_congr
    intro entry he
    obtain ⟨verdict, hv⟩ := hjudged entry.1 (List.fst_mem_of_mem_zipIdx he)
    rw [Bool.eq_iff_iff, decide_eq_true_eq, index_mem_skipped_iff interpreter he,
      Function.comp_apply]
    cases verdict with
    | accepted edit =>
      rw [edit?_eq_some_iff.2 hv, skip?_of_accepted hv entry.2]
      exact iff_of_true Bool.false_ne_true rfl
    | refused reason =>
      rw [edit?_of_refused hv, skip?_of_refused hv entry.2]
      exact iff_of_false (fun hn => hn rfl) Bool.false_ne_true
  rw [hfilter, ← List.filter_map, List.zipIdx_map_fst]

theorem forall₂_requests (interpreter : Interpreter) (calls : List ToolCall) :
    List.Forall₂ interpreter.Requests (calls.filter fun call => (interpreter.edit? call).isSome)
      (calls.filterMap interpreter.edit?) := by
  induction calls with
  | nil => exact .nil
  | cons call calls ih =>
    cases he : interpreter.edit? call with
    | none =>
      rw [List.filterMap_cons_none he, List.filter_cons_of_neg (by rw [he]; decide)]
      exact ih
    | some edit =>
      rw [List.filterMap_cons_some he, List.filter_cons_of_pos (by rw [he]; rfl)]
      exact .cons (requests_of_judge (edit?_eq_some_iff.1 he)) ih

/-- A replay that returns makes the site that the changes of the calls it did not skip spell
out. -/
theorem replay_closed_form (h : interpreter.replay calls = .ok r) :
    ∃ edits, List.Forall₂ interpreter.Requests (r.remaining calls) edits ∧
      r.applied = edits.length ∧ r.site = Site.ofEdits edits := by
  refine ⟨calls.filterMap interpreter.edit?, ?_, ?_, ?_⟩
  · rw [remaining_eq h]
    exact forall₂_requests interpreter calls
  · rw [replay_eq h, outcome]
  · rw [replay_eq h, outcome, Site.applyAll_eq_ofEdits]

/-- A page that is written twice, a rule between, a call without a name, and a layout. -/
def rewrittenPage : List ToolCall :=
  [⟨.str "create_page", .obj [("path", .str "/"), ("content", .str "It is NOW")]⟩,
    ⟨.str "add_dynamic_content",
      .obj [("path", .str "/"), ("placeholder", .str "NOW"), ("type", .str "CURRENT_TIME")]⟩,
    ⟨.null, .null⟩,
    ⟨.str "create_page", .obj [("path", .str "/"), ("content", .str "Now is NOW")]⟩,
    ⟨.str "set_layout", .obj [("header_html", .str "<body>")]⟩]

theorem replay_closed_form_rewritten_page :
    ∃ edits, edits.length = 4 ∧
      Site.ofEdits edits =
        { pages := [("/", ⟨"Now is NOW", [⟨"NOW", .currentTime⟩]⟩)]
          layout := ⟨"<body>", ""⟩ } := by
  have hreplay : Interpreter.standard.replay rewrittenPage = .ok
      { site :=
          { pages := [("/", ⟨"Now is NOW", [⟨"NOW", .currentTime⟩]⟩)]
            layout := ⟨"<body>", ""⟩ }
        applied := 4
        skipped := [⟨2, "", "tool call has no name"⟩] } := rfl
  obtain ⟨edits, _, happlied, hsite⟩ := replay_closed_form hreplay
  exact ⟨edits, happlied.symm, hsite.symm⟩

end Interpreter

end Sitewright
