import Sitewright.Model.Client
import Sitewright.Proofs.Json.Acceptance

namespace Sitewright

variable {P : Json → Prop} {fields : Fields} {items : List Json} {calls : List ToolCall}

namespace Json

/-- Whether what holds of a value holds of the values in it, and of null where there is none. -/
structure Inherited (P : Json → Prop) : Prop where
  null : P .null
  entry : ∀ {fields entry}, P (.obj fields) → entry ∈ fields → P entry.2
  item : ∀ {items item}, P (.arr items) → item ∈ items → P item

theorem mem_of_get? {name : String} {v : Json} (h : fields.get? name = some v) :
    (name, v) ∈ fields := by
  induction fields with
  | nil => cases h
  | cons entry fields ih =>
    rw [Keyed.get?] at h
    split at h
    · next hname =>
      cases h
      exact hname ▸ List.mem_cons_self
    · exact List.mem_cons_of_mem _ (ih h)

theorem Inherited.field (hP : Inherited P) (h : P (.obj fields)) (name : String) :
    P (Json.field fields name) := by
  rw [Json.field]
  cases hv : fields.get? name with
  | none => exact hP.null
  | some v => exact hP.entry h (mem_of_get? hv)

theorem FieldsDistinct.of_mem {entry : String × Json} (h : FieldsDistinct fields)
    (hm : entry ∈ fields) : entry.2.Distinct := by
  induction fields with
  | nil => cases hm
  | cons first fields ih =>
    obtain ⟨hfirst, hrest⟩ := h
    obtain rfl | hm := List.mem_cons.1 hm
    · exact hfirst
    · exact ih hrest hm

theorem ItemsDistinct.of_mem (h : ItemsDistinct items) {item : Json} (hm : item ∈ items) :
    item.Distinct := by
  induction items with
  | nil => cases hm
  | cons first items ih =>
    obtain ⟨hfirst, hrest⟩ := h
    obtain rfl | hm := List.mem_cons.1 hm
    · exact hfirst
    · exact ih hrest hm

theorem distinct_inherited : Inherited Distinct where
  null := trivial
  entry := fun h => h.2.of_mem
  item := fun h hm => ItemsDistinct.of_mem h hm

theorem itemsLong?_eq_none_iff : itemsLong? items = none ↔ ∀ item ∈ items, item.long? = none := by
  induction items with
  | nil => exact iff_of_true rfl nofun
  | cons item items ih => rw [itemsLong?, Option.or_eq_none_iff, ih, List.forall_mem_cons]

theorem fieldsLong?_eq_none_iff :
    fieldsLong? fields = none ↔ ∀ entry ∈ fields, entry.2.long? = none := by
  induction fields with
  | nil => exact iff_of_true rfl nofun
  | cons entry fields ih => rw [fieldsLong?, Option.or_eq_none_iff, ih, List.forall_mem_cons]

theorem short_inherited : Inherited fun v => v.long? = none where
  null := rfl
  entry := fun h hm => fieldsLong?_eq_none_iff.1 h _ hm
  item := fun h hm => itemsLong?_eq_none_iff.1 h _ hm

theorem depth_le_fieldsDepth {entry : String × Json} (hm : entry ∈ fields) :
    entry.2.depth ≤ fieldsDepth fields := by
  induction fields with
  | nil => cases hm
  | cons first fields ih =>
    obtain rfl | hm := List.mem_cons.1 hm
    · exact Nat.le_max_left ..
    · exact Nat.le_trans (ih hm) (Nat.le_max_right ..)

theorem depth_le_itemsDepth {item : Json} (hm : item ∈ items) : item.depth ≤ itemsDepth items := by
  induction items with
  | nil => cases hm
  | cons first items ih =>
    obtain rfl | hm := List.mem_cons.1 hm
    · exact Nat.le_max_left ..
    · exact Nat.le_trans (ih hm) (Nat.le_max_right ..)

theorem depth_item_lt {item : Json} (hm : item ∈ items) : item.depth < (arr items).depth :=
  Nat.lt_succ_of_le (depth_le_itemsDepth hm)

theorem depth_field_lt (fields : Fields) (name : String) :
    (field fields name).depth < (obj fields).depth := by
  rw [field]
  cases hv : fields.get? name with
  | none => exact Nat.succ_pos _
  | some v => exact Nat.lt_succ_of_le (depth_le_fieldsDepth (mem_of_get? hv))

end Json

namespace ToolCall

variable {call : ToolCall}

theorem distinct_toJson (hn : call.name.Distinct) (ha : call.arguments.Distinct) :
    call.toJson.Distinct := by
  refine ⟨?_, hn, ha, trivial⟩
  change ["name", "arguments"].Nodup
  decide

theorem long?_toJson (hn : call.name.long? = none) (ha : call.arguments.long? = none) :
    call.toJson.long? = none := by
  simp only [toJson, Json.long?, Json.fieldsLong?, hn, ha, Option.none_or]

/-- Whether a call has a text for its name, and arguments that `P` holds of. -/
structure Given (P : Json → Prop) (call : ToolCall) : Prop where
  name : ∃ name, call.name = .str name
  arguments : P call.arguments

theorem Given.distinct (h : call.Given Json.Distinct) : call.toJson.Distinct := by
  obtain ⟨name, hname⟩ := h.name
  exact distinct_toJson (hname ▸ trivial) h.arguments

theorem Given.short (h : call.Given fun v => v.long? = none) : call.toJson.long? = none := by
  obtain ⟨name, hname⟩ := h.name
  exact long?_toJson (hname ▸ rfl) h.arguments

theorem depth_toJson (hn : ∃ name, call.name = .str name) :
    call.toJson.depth = call.arguments.depth + 1 := by
  obtain ⟨name, hname⟩ := hn
  simp only [toJson, hname, Json.depth, Json.fieldsDepth, Nat.zero_max, Nat.max_zero]

theorem given_ofFields (hP : Json.Inherited P) (h : P (.obj fields)) :
    (ofFields fields).Given P := by
  refine ⟨⟨_, rfl⟩, ?_⟩
  rw [ofFields]
  dsimp only
  split
  · next inner he => exact hP.field (he ▸ hP.field h "function" : P (.obj inner)) "arguments"
  · exact hP.field h "arguments"

theorem given_of_list (hP : Json.Inherited P) {list : Json}
    (h : (if list.truthy then
        match list with
        | .arr items => .ok ((items.filterMap Json.fields?).map ofFields)
        | _ => .error .callsNotList
      else .ok [] : Except ModelError (List ToolCall)) = .ok calls)
    (hl : P list) : ∀ call ∈ calls, call.Given P := by
  split at h
  · split at h
    · next items =>
      obtain rfl := Except.ok.inj h
      intro call hcall
      obtain ⟨fields, hfields, rfl⟩ := List.mem_map.1 hcall
      obtain ⟨item, hitem, hf⟩ := List.mem_filterMap.1 hfields
      cases item with
      | obj inner =>
        obtain rfl := Option.some.inj hf
        exact given_ofFields hP (hP.item hl hitem)
      | _ => cases hf
    · cases h
  · obtain rfl := Except.ok.inj h
    exact nofun

theorem given_ofMessage (hP : Json.Inherited P) {message : Json} (hm : P message)
    (h : ofMessage message = .ok calls) : ∀ call ∈ calls, call.Given P := by
  cases message with
  | obj fields => exact given_of_list hP h (hP.field hm "tool_calls")
  | _ =>
    obtain rfl : [] = calls := Except.ok.inj h
    exact nofun

theorem given_ofResponse (hP : Json.Inherited P) {response : Json} (hr : P response)
    (h : ofResponse response = .ok calls) : ∀ call ∈ calls, call.Given P := by
  unfold ofResponse at h
  split at h
  · next fields =>
    split at h
    · next choice rest he =>
      have hchoices : P (.arr (.obj choice :: rest)) := he ▸ hP.field hr "choices"
      exact given_ofMessage hP (hP.field (hP.item hchoices List.mem_cons_self) "message") h
    · cases h
  · cases h

theorem depth_ofFields_lt (fields : Fields) :
    (ofFields fields).arguments.depth < (Json.obj fields).depth := by
  rw [ofFields]
  dsimp only
  split
  · next inner he =>
    have hinner := Json.depth_field_lt fields "function"
    rw [he] at hinner
    exact Nat.lt_trans (Json.depth_field_lt inner "arguments") hinner
  · exact Json.depth_field_lt fields "arguments"

theorem depth_ofMessage {message : Json} (h : ofMessage message = .ok calls) :
    ∀ call ∈ calls, call.arguments.depth + 3 ≤ message.depth := by
  cases message with
  | obj fields =>
    have hlist := Json.depth_field_lt fields "tool_calls"
    rw [ofMessage] at h
    generalize Json.field fields "tool_calls" = list at h hlist
    split at h
    · split at h
      · next items =>
        obtain rfl := Except.ok.inj h
        intro call hcall
        obtain ⟨given, hgiven, rfl⟩ := List.mem_map.1 hcall
        obtain ⟨item, hitem, hf⟩ := List.mem_filterMap.1 hgiven
        cases item with
        | obj inner =>
          obtain rfl := Option.some.inj hf
          have hinner := Json.depth_item_lt hitem
          have hcall := depth_ofFields_lt inner
          omega
        | _ => cases hf
      · cases h
    · obtain rfl := Except.ok.inj h
      exact nofun
  | _ =>
    obtain rfl : [] = calls := Except.ok.inj h
    exact nofun

/-- The arguments of a call are far inside the response that it comes from. -/
theorem depth_ofResponse {response : Json} (h : ofResponse response = .ok calls) :
    3 ≤ response.depth ∧ ∀ call ∈ calls, call.arguments.depth + 6 ≤ response.depth := by
  unfold ofResponse at h
  split at h
  · next fields =>
    have hchoices := Json.depth_field_lt fields "choices"
    split at h
    · next choice rest he =>
      rw [he] at hchoices
      have hmem : Json.obj choice ∈ .obj choice :: rest := List.mem_cons_self
      have hchoice := Json.depth_item_lt hmem
      have hmessage := Json.depth_field_lt choice "message"
      refine ⟨by omega, fun call hcall => ?_⟩
      have hcall := depth_ofMessage h call hcall
      omega
    · cases h
  · cases h

end ToolCall

variable {room : Nat} {reply : Reply} {account : Account} {endpoint : Endpoint}
  {question : Question}

/-- The calls that are taken from a reply are those of a value that is read. -/
theorem Reply.exists_of_calls (h : reply.calls room = .ok calls) :
    ∃ s v, Json.readChars room s = .ok v ∧ ToolCall.ofResponse v = .ok calls := by
  unfold Reply.calls at h
  split at h
  · cases h
  · split at h
    · split at h
      · cases h
      · cases h
      · next v hbody =>
        unfold bodyJson at hbody
        split at hbody
        · cases hbody
        · next s _ =>
          exact ⟨s, v, mapError_eq_ok_iff.1 hbody, mapError_eq_ok_iff.1 h⟩
    · cases h

theorem Account.exists_of_ask (h : (account.ask room endpoint question).answer = .ok calls) :
    ∃ s v, Json.readChars room s = .ok v ∧ ToolCall.ofResponse v = .ok calls := by
  unfold Account.ask at h
  dsimp only at h
  split at h
  · cases h
  · exact Reply.exists_of_calls h

/-- A model gives no call in which an object has two fields of one name. -/
theorem Account.distinct_of_ask (h : (account.ask room endpoint question).answer = .ok calls) :
    ∀ call ∈ calls, call.toJson.Distinct := by
  obtain ⟨s, v, hread, hresponse⟩ := exists_of_ask h
  have hgiven := ToolCall.given_ofResponse Json.distinct_inherited
    (Json.distinct_of_readChars hread) hresponse
  exact fun call hcall => (hgiven call hcall).distinct

/-- There is room to write what there was room to read as the answer of a model. -/
theorem Account.shallow_of_ask (h : (account.ask room endpoint question).answer = .ok calls) :
    2 ≤ room ∧ ∀ call ∈ calls, call.toJson.depth + 2 ≤ room := by
  obtain ⟨s, v, hread, hresponse⟩ := exists_of_ask h
  have hroom := (Json.readChars_eq_ok_iff.1 hread).depth_le
  obtain ⟨hresponded, hcalls⟩ := ToolCall.depth_ofResponse hresponse
  have hgiven := ToolCall.given_ofResponse Json.distinct_inherited
    (Json.distinct_of_readChars hread) hresponse
  refine ⟨by omega, fun call hcall => ?_⟩
  have hdepth := hcalls call hcall
  rw [ToolCall.depth_toJson (hgiven call hcall).name]
  omega

end Sitewright
