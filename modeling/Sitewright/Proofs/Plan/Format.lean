import Sitewright.Proofs.Json.LineEnds
import Sitewright.Proofs.Json.Overfull
import Sitewright.Proofs.Model.Answer
import Sitewright.Proofs.Plan.Save

namespace Sitewright

variable {files : Files} {path : Path} {bytes : List UInt8} {modified : Int} {room : Nat}

namespace Files

theorem textOfBytes_eq_ok_iff {text : String} :
    textOfBytes bytes = .ok text ↔
      ∃ s, bytes = Text.Utf8.encode s ∧ text = String.ofList (Text.universalLines s) := by
  rw [textOfBytes, map_eq_ok_iff]
  simp only [Text.Utf8.decode_eq_ok_iff, eq_comm (b := text)]

theorem read_eq_ok_iff :
    files.read path = .ok bytes ↔ ∃ modified, files.get? path = some (.file bytes modified) := by
  rw [read]
  constructor
  · intro h
    split at h
    · next hf =>
      cases h
      exact ⟨_, find_eq_ok_iff.1 hf⟩
    · cases h
    · cases h
  · rintro ⟨modified, h⟩
    rw [find_eq_ok_iff.2 h]

theorem readText_eq_ok_iff {text : String} :
    files.readText path = .ok text ↔
      ∃ s modified, files.get? path = some (.file (Text.Utf8.encode s) modified) ∧
        text = String.ofList (Text.universalLines s) := by
  rw [readText]
  constructor
  · intro h
    split at h
    · cases h
    · next bytes hbytes =>
      rw [mapError_eq_ok_iff, textOfBytes_eq_ok_iff] at h
      obtain ⟨s, rfl, rfl⟩ := h
      obtain ⟨modified, hfile⟩ := read_eq_ok_iff.1 hbytes
      exact ⟨s, modified, hfile, rfl⟩
  · rintro ⟨s, modified, hfile, rfl⟩
    rw [read_eq_ok_iff.2 ⟨modified, hfile⟩]
    exact mapError_eq_ok_iff.2 (textOfBytes_eq_ok_iff.2 ⟨s, rfl, rfl⟩)

/-- A file holds a value just if it is a text in UTF-8 that is a document of it. -/
theorem readJson_eq_ok_iff {v : Json} :
    files.readJson room path = .ok v ↔
      ∃ s modified, files.get? path = some (.file (Text.Utf8.encode s) modified) ∧
        Json.Document room s v := by
  rw [readJson]
  constructor
  · intro h
    split at h
    · cases h
    · next text htext =>
      obtain ⟨s, modified, hfile, rfl⟩ := readText_eq_ok_iff.1 htext
      rw [mapError_eq_ok_iff, Json.read_eq_ok_iff, String.toList_ofList,
        Json.document_universalLines] at h
      exact ⟨s, modified, hfile, h⟩
  · rintro ⟨s, modified, hfile, h⟩
    rw [readText_eq_ok_iff.2 ⟨s, modified, hfile, rfl⟩]
    apply mapError_eq_ok_iff.2
    rwa [Json.read_eq_ok_iff, String.toList_ofList, Json.document_universalLines]

/-- Reading a file halts at a value inside too many others just if it is a text in UTF-8 that has
more brackets open than there is room for, before anything else is wrong with it. -/
theorem readJson_deep_iff {e : Json.TooDeep} :
    files.readJson room path = .error (.json (.halt (.deep e))) ↔
      ∃ s modified, files.get? path = some (.file (Text.Utf8.encode s) modified) ∧
        Json.Overfull room s e := by
  rw [readJson]
  constructor
  · intro h
    split at h
    · cases h
    · next text htext =>
      obtain ⟨s, modified, hfile, rfl⟩ := readText_eq_ok_iff.1 htext
      obtain ⟨cause, hread, hcause⟩ := mapError_eq_error_iff.1 h
      obtain rfl := DocumentError.json.inj hcause
      rw [Json.read_deep_iff, String.toList_ofList, Json.overfull_universalLines] at hread
      exact ⟨s, modified, hfile, hread⟩
  · rintro ⟨s, modified, hfile, h⟩
    rw [readText_eq_ok_iff.2 ⟨s, modified, hfile, rfl⟩]
    apply mapError_eq_error_iff.2
    refine ⟨_, ?_, rfl⟩
    rwa [Json.read_deep_iff, String.toList_ofList, Json.overfull_universalLines]

end Files

namespace Plan

variable {plan : Plan} {fields : Fields}

/-- Whether an object has the shape of a plan, and of which one. Its calls may be spelled either
way, and what only describes the plan may be anything. -/
structure Shape (fields : Fields) (plan : Plan) : Prop where
  calls : ∃ objects : List Fields,
    Json.field fields "toolCalls" = .arr (objects.map Json.obj) ∧
      plan.calls = objects.map ToolCall.ofFields
  fingerprint : Json.field fields "sourceFingerprint" = .int plan.fingerprint
  signature : Json.field fields "assetsSignature" = .str plan.signature
  createdAt : plan.createdAt = (Json.field fields "createdAt").displayGiven
  model : plan.model = .str (Json.field fields "model").displayGiven
  apiBase : plan.apiBase = .str (Json.field fields "apiBase").displayGiven

theorem mapM_fields?_eq_some_iff {items : List Json} {objects : List Fields} :
    items.mapM Json.fields? = some objects ↔ items = objects.map Json.obj := by
  constructor
  · intro h
    induction items generalizing objects with
    | nil =>
      cases h
      rfl
    | cons item items ih =>
      simp only [List.mapM_cons, Option.bind_eq_bind, Option.bind_eq_some_iff] at h
      obtain ⟨object, hitem, others, hothers, he⟩ := h
      cases he
      cases item with
      | obj inner =>
        cases hitem
        rw [List.map_cons, ih hothers]
      | _ => cases hitem
  · rintro rfl
    induction objects with
    | nil => rfl
    | cons object objects ih =>
      rw [List.map_cons, List.mapM_cons, ih]
      rfl

theorem callsField_eq_ok_iff {calls : List ToolCall} :
    callsField fields = .ok calls ↔
      ∃ objects : List Fields, Json.field fields "toolCalls" = .arr (objects.map Json.obj) ∧
        calls = objects.map ToolCall.ofFields := by
  rw [callsField]
  constructor
  · intro h
    split at h
    · next items hitems =>
      split at h
      · next objects ho =>
        cases h
        rw [mapM_fields?_eq_some_iff] at ho
        exact ⟨objects, by rw [hitems, ho], rfl⟩
      · cases h
    · cases h
  · rintro ⟨objects, ho, rfl⟩
    rw [ho]
    dsimp only
    rw [mapM_fields?_eq_some_iff.2 rfl]

theorem fingerprintField_eq_ok_iff {n : Int} :
    fingerprintField fields = .ok n ↔ Json.field fields "sourceFingerprint" = .int n := by
  rw [fingerprintField]
  split
  · next m hm => rw [hm, Except.ok.injEq, Json.int.injEq]
  · next hm => exact iff_of_false nofun (hm n)

theorem signatureField_eq_ok_iff {s : String} :
    signatureField fields = .ok s ↔ Json.field fields "assetsSignature" = .str s := by
  rw [signatureField]
  split
  · next t ht => rw [ht, Except.ok.injEq, Json.str.injEq]
  · next ht => exact iff_of_false nofun (ht s)

theorem ofJson_eq_ok_iff {v : Json} :
    ofJson v = .ok plan ↔ ∃ fields, v = .obj fields ∧ Shape fields plan := by
  constructor
  · intro h
    cases v with
    | obj fields =>
      rw [ofJson] at h
      obtain ⟨calls, hcalls, h⟩ := exists_of_bind h
      obtain ⟨fingerprint, hfingerprint, h⟩ := exists_of_bind h
      obtain ⟨signature, hsignature, h⟩ := exists_of_bind h
      cases h
      exact ⟨fields, rfl, callsField_eq_ok_iff.1 hcalls,
        fingerprintField_eq_ok_iff.1 hfingerprint, signatureField_eq_ok_iff.1 hsignature, rfl,
        rfl, rfl⟩
    | _ => cases h
  · rintro ⟨fields, rfl, h⟩
    obtain ⟨calls, fingerprint, signature, createdAt, model, apiBase⟩ := plan
    obtain ⟨hcalls, hfingerprint, hsignature, rfl, rfl, rfl⟩ := h
    rw [ofJson, callsField_eq_ok_iff.2 hcalls, fingerprintField_eq_ok_iff.2 hfingerprint,
      signatureField_eq_ok_iff.2 hsignature]
    rfl

/-- A file holds a plan just if it is a document of an object of that shape. -/
theorem readFile_eq_ok_iff :
    readFile room path files = .ok plan ↔
      ∃ s modified fields, files.get? path = some (.file (Text.Utf8.encode s) modified) ∧
        Json.Document room s (.obj fields) ∧ Shape fields plan := by
  rw [readFile]
  constructor
  · intro h
    split at h
    · cases h
    · next v hv =>
      obtain ⟨s, modified, hfile, hdocument⟩ := Files.readJson_eq_ok_iff.1 hv
      rw [mapError_eq_ok_iff, ofJson_eq_ok_iff] at h
      obtain ⟨fields, rfl, hshape⟩ := h
      exact ⟨s, modified, fields, hfile, hdocument, hshape⟩
  · rintro ⟨s, modified, fields, hfile, hdocument, hshape⟩
    rw [Files.readJson_eq_ok_iff.2 ⟨s, modified, hfile, hdocument⟩]
    exact mapError_eq_ok_iff.2 (ofJson_eq_ok_iff.2 ⟨fields, rfl, hshape⟩)

theorem readFile_deep_iff {e : Json.TooDeep} :
    readFile room path files = .error (.document (.json (.halt (.deep e)))) ↔
      ∃ s modified, files.get? path = some (.file (Text.Utf8.encode s) modified) ∧
        Json.Overfull room s e := by
  rw [← Files.readJson_deep_iff, readFile]
  cases files.readJson room path with
  | error cause => rw [Except.error.injEq, Unusable.document.injEq, Except.error.injEq]
  | ok v =>
    refine iff_of_false (fun h => ?_) (by simp)
    obtain ⟨cause, -, hcause⟩ := mapError_eq_error_iff.1 h
    cases hcause

/-- Whether a plan comes back as it is when it is kept with so much room. -/
structure Settled (plan : Plan) (room : Nat) : Prop where
  restored : plan.restored = plan
  distinct : plan.toJson.Distinct
  short : plan.toJson.long? = none
  shallow : plan.toJson.depth ≤ room

theorem Shape.restored (h : Shape fields plan) : plan.restored = plan := by
  obtain ⟨objects, _, hcalls⟩ := h.calls
  have hnormalized : plan.calls.map ToolCall.normalized = plan.calls := by
    rw [hcalls, List.map_map]
    rfl
  obtain ⟨calls, fingerprint, signature, createdAt, model, apiBase⟩ := plan
  obtain ⟨-, -, -, -, rfl, rfl⟩ := h
  simp only [Plan.restored, displayGiven_str] at hnormalized ⊢
  rw [hnormalized]

theorem Shape.distinct (h : Shape fields plan) (hd : (Json.obj fields).Distinct) :
    plan.toJson.Distinct := by
  obtain ⟨objects, ho, hcalls⟩ := h.calls
  refine distinct_toJson ?_ (h.model ▸ trivial) (h.apiBase ▸ trivial)
  intro call hcall
  rw [hcalls] at hcall
  obtain ⟨object, hobject, rfl⟩ := List.mem_map.1 hcall
  have hitems : (Json.arr (objects.map Json.obj)).Distinct :=
    ho ▸ Json.distinct_inherited.field hd "toolCalls"
  have hitem := Json.distinct_inherited.item hitems (List.mem_map_of_mem hobject)
  exact (ToolCall.given_ofFields Json.distinct_inherited hitem).distinct

theorem Shape.short (h : Shape fields plan) (hl : (Json.obj fields).long? = none) :
    plan.toJson.long? = none := by
  obtain ⟨objects, ho, hcalls⟩ := h.calls
  have hitems : (Json.arr (objects.map Json.obj)).long? = none :=
    ho ▸ Json.short_inherited.field hl "toolCalls"
  have hfingerprint : (Json.int plan.fingerprint).long? = none :=
    h.fingerprint ▸ Json.short_inherited.field hl _
  have hkept : Json.itemsLong? (plan.calls.map ToolCall.toJson) = none := by
    rw [Json.itemsLong?_eq_none_iff, hcalls]
    simp only [List.forall_mem_map]
    intro object hobject
    have hitem := Json.short_inherited.item hitems (List.mem_map_of_mem hobject)
    exact (ToolCall.given_ofFields Json.short_inherited hitem).short
  have hmodel : plan.model.long? = none := h.model ▸ rfl
  have hbase : plan.apiBase.long? = none := h.apiBase ▸ rfl
  rw [toJson]
  simp only [Json.long?, Json.fieldsLong?, hkept, hmodel, hbase] at hfingerprint ⊢
  rw [hfingerprint]
  rfl

/-- A plan is no deeper than the object that it was read from. -/
theorem Shape.shallow (h : Shape fields plan) : plan.toJson.depth ≤ (Json.obj fields).depth := by
  obtain ⟨objects, ho, hcalls⟩ := h.calls
  have hlist := Json.depth_field_lt fields "toolCalls"
  rw [ho] at hlist
  have hpos : 0 < (Json.arr (objects.map Json.obj)).depth := Nat.succ_pos _
  apply depth_toJson_le
  · omega
  · intro call hcall
    rw [hcalls] at hcall
    obtain ⟨object, hobject, rfl⟩ := List.mem_map.1 hcall
    have hitem := Json.depth_item_lt (List.mem_map_of_mem (f := Json.obj) hobject)
    have harguments := ToolCall.depth_ofFields_lt object
    rw [ToolCall.depth_toJson ⟨_, rfl⟩]
    omega
  · rw [h.model]
    exact Nat.lt_trans hpos hlist
  · rw [h.apiBase]
    exact Nat.lt_trans hpos hlist

theorem Settled.load {platform : Platform} {saved : Saved} (hs : plan.Settled room)
    (h : Saves plan platform path files saved) (hk : saved.failure? = none) :
    load room path saved.files = .ok (some plan, []) := by
  rw [load_bytes hs.distinct hs.shallow (h.kept hk).2 hs.short, hs.restored]

theorem load_eq_some_iff :
    (∃ events, load room path files = .ok (some plan, events)) ↔
      readFile room path files = .ok plan := by
  rw [load]
  split
  · split
    · next read hread =>
      rw [hread]
      constructor
      · rintro ⟨_, h⟩
        cases h
        rfl
      · intro h
        cases h
        exact ⟨_, rfl⟩
    · next hread => simp [hread]
    · next hread => simp [hread]
  · next hnone =>
    refine iff_of_false (by simp) fun h => hnone ?_
    obtain ⟨_, _, _, hfile, _⟩ := readFile_eq_ok_iff.1 h
    rw [hfile]
    rfl

theorem load_eq_error_iff {e : Json.TooDeep} :
    load room path files = .error e ↔
      readFile room path files = .error (.document (.json (.halt (.deep e)))) := by
  rw [load]
  split
  · split
    · next hread => simp [hread]
    · next hread => simp [hread]
    · next cause hother hread =>
      refine iff_of_false (by simp) fun h => ?_
      exact hother e (Except.error.inj (hread.symm.trans h))
  · next hnone =>
    refine iff_of_false (by simp) fun h => hnone ?_
    obtain ⟨_, _, hfile, _⟩ := readFile_deep_iff.1 h
    rw [hfile]
    rfl

end Plan

end Sitewright
