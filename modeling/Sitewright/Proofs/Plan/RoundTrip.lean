import Sitewright.Plan.Store
import Sitewright.Proofs.Json.Document
import Sitewright.Tool.Replay

namespace Sitewright

namespace ToolCall

variable (call : ToolCall)

/-- What comes back of a call that was kept: its name is a text. -/
def normalized : ToolCall := ⟨.str call.label, call.arguments⟩

end ToolCall

namespace Interpreter

variable (interpreter : Interpreter)

theorem judge_normalized (call : ToolCall) :
    interpreter.judge call.normalized = interpreter.judge call := rfl

theorem step_normalized (r : Replay) (call : ToolCall) (verdict : Verdict) :
    r.step call.normalized verdict = r.step call verdict := by
  cases verdict <;> rfl

theorem replayFrom_normalized (calls : List ToolCall) (r : Replay) :
    interpreter.replayFrom r (calls.map ToolCall.normalized) = interpreter.replayFrom r calls := by
  induction calls generalizing r with
  | nil => rfl
  | cons call calls ih =>
    simp only [List.map_cons, replayFrom, judge_normalized, step_normalized, ih]

theorem replay_normalized (calls : List ToolCall) :
    interpreter.replay (calls.map ToolCall.normalized) = interpreter.replay calls :=
  replayFrom_normalized interpreter calls {}

end Interpreter

namespace Plan

variable {plan : Plan} {path : Path} {files : Files} {modified : Int}

/-- What comes back of a plan that was kept. -/
def restored (plan : Plan) : Plan :=
  { plan with
    calls := plan.calls.map ToolCall.normalized
    model := .str plan.model.displayGiven
    apiBase := .str plan.apiBase.displayGiven }

theorem distinct_toJson (hc : ∀ call ∈ plan.calls, call.toJson.Distinct)
    (hm : plan.model.Distinct) (hb : plan.apiBase.Distinct) : plan.toJson.Distinct := by
  have hcalls (calls : List ToolCall) (h : ∀ call ∈ calls, call.toJson.Distinct) :
      Json.ItemsDistinct (calls.map ToolCall.toJson) := by
    induction calls with
    | nil => trivial
    | cons call calls ih =>
      obtain ⟨hcall, hrest⟩ := List.forall_mem_cons.1 h
      exact ⟨hcall, ih hrest⟩
  refine ⟨?_, hcalls plan.calls hc, trivial, trivial, trivial, hm, hb, trivial⟩
  change ["toolCalls", "sourceFingerprint", "assetsSignature", "createdAt", "model",
    "apiBase"].Nodup
  decide

/-- Around the calls of a plan are a list and the plan itself. -/
theorem depth_toJson_le {room : Nat} (hr : 2 ≤ room)
    (hc : ∀ call ∈ plan.calls, call.toJson.depth + 2 ≤ room) (hm : plan.model.depth < room)
    (hb : plan.apiBase.depth < room) : plan.toJson.depth ≤ room := by
  have hcalls (calls : List ToolCall) (h : ∀ call ∈ calls, call.toJson.depth + 2 ≤ room) :
      Json.itemsDepth (calls.map ToolCall.toJson) + 2 ≤ room := by
    induction calls with
    | nil => exact hr
    | cons call calls ih =>
      obtain ⟨hcall, hrest⟩ := List.forall_mem_cons.1 h
      have hlater := ih hrest
      rw [List.map_cons, Json.itemsDepth]
      omega
  have hlist := hcalls plan.calls hc
  simp only [toJson, Json.depth, Json.fieldsDepth]
  omega

theorem displayGiven_str (s : String) : (Json.str s).displayGiven = s := by
  simp only [Json.displayGiven, Json.truthy, Json.display, bne_iff_ne, ite_eq_left_iff,
    Decidable.not_not]
  exact Eq.symm

theorem mapM_fields?_toJson (calls : List ToolCall) :
    (calls.map ToolCall.toJson).mapM Json.fields? =
      some (calls.map fun call => [("name", call.name), ("arguments", call.arguments)]) := by
  induction calls with
  | nil => rfl
  | cons call calls ih =>
    rw [List.map_cons, List.mapM_cons, ih]
    rfl

theorem callsField_toJson (fields : Fields) {calls : List ToolCall}
    (h : Json.field fields "toolCalls" = .arr (calls.map ToolCall.toJson)) :
    callsField fields = .ok (calls.map ToolCall.normalized) := by
  rw [callsField, h]
  simp only [mapM_fields?_toJson]
  rw [List.map_map]
  rfl

theorem ofJson_toJson (plan : Plan) : ofJson plan.toJson = .ok plan.restored := by
  have hcalls := callsField_toJson
    [("toolCalls", .arr (plan.calls.map ToolCall.toJson)),
      ("sourceFingerprint", .int plan.fingerprint), ("assetsSignature", .str plan.signature),
      ("createdAt", .str plan.createdAt), ("model", plan.model), ("apiBase", plan.apiBase)] rfl
  have hcreated := displayGiven_str plan.createdAt
  unfold toJson ofJson
  dsimp only
  rw [hcalls]
  exact congrArg (fun createdAt => Except.ok { plan.restored with createdAt }) hcreated

/-- A kept plan is read back, unless an integer in it is too long. -/
theorem readFile_bytes {room : Nat} (hd : plan.toJson.Distinct) (hroom : plan.toJson.depth ≤ room)
    (h : files.get? path = some (.file plan.bytes modified)) :
    readFile room path files =
      match plan.toJson.long? with
      | none => .ok plan.restored
      | some n => .error (.document (.json (.halt (.long (.read n))))) := by
  rw [readFile, Files.readJson_indentedText hd hroom h, Json.readBack]
  cases plan.toJson.long? with
  | none =>
    simp only [Except.mapError]
    rw [ofJson_toJson]
  | some e => rfl

theorem load_bytes {room : Nat} (hd : plan.toJson.Distinct) (hroom : plan.toJson.depth ≤ room)
    (h : files.get? path = some (.file plan.bytes modified)) (hl : plan.toJson.long? = none) :
    load room path files = .ok (some plan.restored, []) := by
  rw [load, if_pos (by rw [h]; rfl), readFile_bytes hd hroom h, hl]

theorem load_of_missing {room : Nat} (h : files.get? path = none) :
    load room path files = .ok (none, []) := by
  rw [load, h]
  rfl

/-- Whether a plan is loaded from a path. -/
def Found (room : Nat) (path : Path) (files : Files) (plan : Plan) : Prop :=
  ∃ events, load room path files = .ok (some plan, events)

end Plan

end Sitewright
