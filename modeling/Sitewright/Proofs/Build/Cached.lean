import Sitewright.Proofs.Asset.Signature
import Sitewright.Proofs.Build.Result
import Sitewright.Proofs.Plan.Save

namespace Sitewright

variable {files later : Files} {modified : Int}

namespace Settings

/-- Whether keeping a plan touches neither the source nor the assets. -/
structure Apart (settings : Settings) : Prop where
  source : settings.source ≠ settings.cache
  assets : ¬ settings.assets <+: settings.cache

theorem apart_standard (root : Path) : (standard root).Apart where
  source := fun h => by simpa [standard] using List.append_cancel_left h
  assets := fun h => by
    obtain ⟨rest, hr⟩ := h
    rw [standard, List.append_assoc] at hr
    simpa using List.append_cancel_left hr

/-- Whether a project still has the time of its source, its assets and its kept plan; the source
has to be a text, whichever. -/
structure Unchanged (settings : Settings) (before after : Files) : Prop where
  modified : after.modified settings.source = before.modified settings.source
  readable : ∃ text, after.readText settings.source = .ok text
  assets : ∀ name, name ∈ after.listed settings.assets ↔ name ∈ before.listed settings.assets
  cache : after.get? settings.cache = before.get? settings.cache

end Settings

namespace Compiler

variable {compiler next : Compiler} {force : Bool} {now : Moment} {text : String} {plan : Plan}
  {events : List Event} {fresh : BuildResult}

/-- A kept plan that holds is carried out, and nobody is asked. -/
theorem build_of_load (hm : files.modified compiler.settings.source = .ok modified)
    (ht : files.readText compiler.settings.source = .ok text)
    (hl : Plan.load compiler.platform.nesting compiler.settings.cache files =
      .ok (some plan, events))
    (hr : plan.reusable modified (Inventory.scan files compiler.settings.assets).signature = true)
    (now : Moment) :
    let outcome := compiler.build false now files
    outcome.result = (BuildResult.ofPlan compiler.interpreter .cached plan).1 ∧
      outcome.files = files ∧ outcome.question = none ∧ outcome.sent = [] := by
  have hkept : Snapshot.kept? ⟨modified, text, .scan files compiler.settings.assets⟩
      compiler.platform.nesting compiler.settings.cache files =
        .ok (some plan, events ++ [.planReused plan.calls.length]) :=
    Snapshot.kept?_of_load hl hr
  simp only [build, buildWhile, Snapshot.take, Meanwhile.nothing, hm, ht, resume, hkept,
    Bool.false_eq_true, if_false, and_self]

theorem modified_save {settings : Settings} {saved : Plan.Saved} {platform : Platform}
    (ha : settings.Apart) (h : plan.Saves platform settings.cache files saved)
    (hm : files.modified settings.source = .ok modified) :
    saved.files.modified settings.source = .ok modified := by
  obtain ⟨entry, he, rfl⟩ := Files.modified_eq_ok_iff.1 hm
  have hsame := h.get?_of_isSome ha.source (by rw [he]; rfl)
  exact Files.modified_eq_ok_iff.2 ⟨entry, hsame.trans he, rfl⟩

/-- A new plan that was kept is what the next build carries out, if nothing has changed since.
Nobody is asked then, and nothing is kept. -/
theorem build_kept (ha : compiler.settings.Apart) (hp : compiler.settings.SamePlaces next.settings)
    (hroom : next.platform.nesting = compiler.platform.nesting)
    (hplan : compiler.planFor force now files = .ok (.compiled, plan))
    (hsave : (plan.save compiler.platform compiler.settings.cache files).failure? = none)
    (hd : plan.toJson.Distinct)
    (hu : compiler.settings.Unchanged (compiler.build force now files).files later)
    (at' : Moment) :
    let outcome := next.build false at' later
    outcome.result = (BuildResult.ofPlan next.interpreter .cached plan.restored).1 ∧
      outcome.files = later ∧ outcome.question = none ∧ outcome.sent = [] := by
  have hsaves := plan.saves compiler.platform compiler.settings.cache files
  obtain ⟨hfits, hfile⟩ := hsaves.kept hsave
  have hfiles : (compiler.build force now files).files =
      (plan.save compiler.platform compiler.settings.cache files).files := by
    rw [(compiler.build_eq force now files).2, hplan]
    rfl
  rw [hfiles] at hu
  obtain ⟨snapshot, calls, hsnapshot, _, hmade⟩ := planFor_compiled hplan
  obtain ⟨hm, _, hi⟩ := Snapshot.of_eq_ok hsnapshot
  have hfingerprint : plan.fingerprint = snapshot.modified := hmade ▸ rfl
  have hsig : plan.signature = (Inventory.scan files compiler.settings.assets).signature :=
    hi ▸ hmade ▸ rfl
  obtain ⟨text, ht⟩ := hu.readable
  -- Keeping the plan touches neither the source nor the assets: both are as the plan says.
  have hscan : Inventory.scan later compiler.settings.assets =
      Inventory.scan files compiler.settings.assets := by
    apply Inventory.scan_eq_of_mem
    intro name
    exact (hu.assets name).trans (hsaves.mem_listed ha.assets)
  have hload : Plan.load compiler.platform.nesting compiler.settings.cache later =
      .ok (some plan.restored, []) :=
    Plan.load_bytes hd hfits.shallow (hu.cache.trans hfile) hfits.short
  have hmodified := hu.modified.trans (modified_save ha hsaves hm)
  have hreusable : plan.restored.reusable snapshot.modified
      (Inventory.scan later compiler.settings.assets).signature = true := by
    rw [hscan, ← hsig, ← hfingerprint, Plan.reusable, Bool.and_eq_true, decide_eq_true_eq,
      beq_iff_eq]
    exact ⟨Int.le_refl _, rfl⟩
  rw [hp.source] at ht hmodified
  rw [hp.cache, ← hroom] at hload
  rw [hp.assets] at hreusable
  exact build_of_load hmodified ht hload hreusable at'

theorem interpreter_congr (hreg : next.registry = compiler.registry)
    (hroom : next.platform.nesting = compiler.platform.nesting) :
    next.interpreter = compiler.interpreter := by
  rw [interpreter, interpreter, hreg, hroom]

/-- A build that finds the plan of an earlier one, and nothing changed since, makes the same site
with the same calls skipped, and asks nobody. It may have another client, other credentials, or
none. -/
theorem build_again (ha : compiler.settings.Apart) (hp : compiler.settings.SamePlaces next.settings)
    (hreg : next.registry = compiler.registry)
    (hroom : next.platform.nesting = compiler.platform.nesting)
    (hbuild : (compiler.build force now files).result = .ok fresh)
    (hcompiled : fresh.status = .compiled)
    (hsave : (fresh.plan.save compiler.platform compiler.settings.cache files).failure? = none)
    (hd : fresh.plan.toJson.Distinct)
    (hu : compiler.settings.Unchanged (compiler.build force now files).files later) (at' : Moment) :
    ∃ cached, (next.build false at' later).result = .ok cached ∧ cached.status = .cached ∧
      (next.build false at' later).question = none ∧ (next.build false at' later).sent = [] ∧
      cached.routes = fresh.routes ∧ cached.skipped = fresh.skipped := by
  obtain ⟨hplan, hreplay⟩ := planFor_of_build hbuild
  rw [hcompiled] at hplan
  obtain ⟨hresult, _, hquestion, hsent⟩ := build_kept ha hp hroom hplan hsave hd hu at'
  refine ⟨⟨fresh.plan.restored, .cached, fresh.replay⟩, ?_, rfl, hquestion, hsent, rfl, rfl⟩
  rw [hresult]
  apply BuildResult.ofPlan_ok_iff.2
  refine ⟨?_, rfl, rfl⟩
  rw [interpreter_congr hreg hroom, Plan.restored, Interpreter.replay_normalized, hreplay]

/-- A project with an empty source and no assets. -/
def blankProject : Files := { entries := [(["app.txt"], .file [] 5)] }

/-- Calls for one page, and one call without a name. -/
def onePageCalls : List ToolCall :=
  [⟨.str "create_page", .obj [("path", .str "/"), ("content", .str "hi"), ("order", .int 2)]⟩,
    ⟨.null, .arr [.null, .bool true]⟩]

def onePage : Compiler := { settings := .standard [], client := .own fun _ => .ok onePageCalls }

def keyless : Compiler :=
  { settings := .standard [], client := .remote { reply := fun _ => .failed "unreachable" } }

def onePagePlan : Plan := Snapshot.plan ⟨5, "", ⟨[]⟩⟩ (.standard []) default onePageCalls

def onePageReplay : Replay :=
  { site := { pages := [("/", ⟨"hi", []⟩)] }
    applied := 1
    skipped := [⟨1, "", "tool call has no name"⟩] }

theorem distinct_onePageCalls : ∀ call ∈ onePageCalls, call.toJson.Distinct := by
  simp [onePageCalls, ToolCall.toJson, Json.Distinct, Json.FieldsDistinct, Json.ItemsDistinct,
    Keyed.keys]

theorem distinct_onePagePlan : onePagePlan.toJson.Distinct :=
  Plan.distinct_toJson distinct_onePageCalls trivial trivial

theorem build_again_one_page :
    let later := (onePage.build false default blankProject).files
    ∃ cached, (keyless.build false default later).result = .ok cached ∧
      cached.status = .cached ∧ cached.routes = ⟨[{ path := "/", content := "hi" }]⟩ ∧
      cached.skipped = [⟨1, "", "tool call has no name"⟩] := by
  have hplaces : onePage.settings.SamePlaces keyless.settings := ⟨rfl, rfl, rfl⟩
  have hbuild : (onePage.build false default blankProject).result =
      .ok ⟨onePagePlan, .compiled, onePageReplay⟩ := rfl
  have hlater : onePage.settings.Unchanged (onePage.build false default blankProject).files
      (onePage.build false default blankProject).files := ⟨rfl, ⟨"", rfl⟩, fun _ => Iff.rfl, rfl⟩
  obtain ⟨cached, hresult, hstatus, _, _, hroutes, hskipped⟩ :=
    build_again (Settings.apart_standard []) hplaces rfl rfl hbuild rfl rfl distinct_onePagePlan
      hlater default
  exact ⟨cached, hresult, hstatus, hroutes, hskipped⟩

end Compiler

end Sitewright
