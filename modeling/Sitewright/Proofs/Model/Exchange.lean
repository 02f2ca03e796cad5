import Mathlib.Data.List.Forall2
import Sitewright.Model.Client
import Sitewright.Proofs.Build.Report
import Sitewright.Proofs.Json.Acceptance
import Sitewright.Proofs.Text.Utf8

namespace Sitewright

variable {fields : Fields} {message : Json} {calls : List ToolCall} {call : ToolCall}

namespace ToolCall

/-- Where a call has its name and its arguments: in its function, if that is an object, or else in
itself. -/
inductive Source (fields : Fields) : Fields → Prop
  | function {inner : Fields} (h : Json.field fields "function" = .obj inner) : Source fields inner
  | self (h : ∀ inner, Json.field fields "function" ≠ .obj inner) : Source fields fields

/-- The name that a value gives to a call: none if it is no text. -/
inductive Names : Json → String → Prop
  | text (name : String) : Names (.str name) name
  | other {v : Json} (h : ∀ name, v ≠ .str name) : Names v ""

/-- Whether an object is read as a call. -/
def Tells (fields : Fields) (call : ToolCall) : Prop :=
  ∃ source name, Source fields source ∧ Names (Json.field source "name") name ∧
    call = ⟨.str name, Json.field source "arguments"⟩

/-- The calls of a message: one for each object in its list of them. -/
inductive Lists : Json → List ToolCall → Prop
  | noObject {message : Json} (h : ∀ fields, message ≠ .obj fields) : Lists message []
  | falsy {fields : Fields} (h : (Json.field fields "tool_calls").truthy = false) :
    Lists (.obj fields) []
  | list {fields : Fields} {items : List Json} {calls : List ToolCall}
    (h : Json.field fields "tool_calls" = .arr items)
    (hcalls : List.Forall₂ Tells (items.filterMap Json.fields?) calls) : Lists (.obj fields) calls

theorem names_iff {v : Json} {name : String} : Names v name ↔ v.text?.getD "" = name := by
  constructor
  · rintro (⟨name⟩ | hother)
    · rfl
    · cases v with
      | str s => exact (hother s rfl).elim
      | _ => rfl
  · rintro rfl
    cases v with
    | str s => exact .text s
    | _ => exact .other nofun

/-- The fields from which a call is read. -/
def source (fields : Fields) : Fields :=
  match Json.field fields "function" with
  | .obj inner => inner
  | _ => fields

theorem ofFields_eq (fields : Fields) :
    ofFields fields =
      ⟨.str ((Json.field (source fields) "name").text?.getD ""),
        Json.field (source fields) "arguments"⟩ := rfl

theorem source_iff {inner : Fields} : Source fields inner ↔ source fields = inner := by
  rw [source]
  constructor
  · intro h
    cases h with
    | function hinner => rw [hinner]
    | self hnone =>
      split
      · next inner hinner => exact (hnone inner hinner).elim
      · rfl
  · rintro rfl
    split
    · next inner hinner => exact .function hinner
    · next hnone => exact .self hnone

theorem tells_iff : Tells fields call ↔ ofFields fields = call := by
  rw [ofFields_eq]
  constructor
  · rintro ⟨inner, name, hinner, hname, rfl⟩
    rw [source_iff.1 hinner, names_iff.1 hname]
  · rintro rfl
    exact ⟨_, _, source_iff.2 rfl, names_iff.2 rfl, rfl⟩

theorem forall₂_tells_iff {objects : List Fields} :
    List.Forall₂ Tells objects calls ↔ objects.map ofFields = calls := by
  have htells : Tells = fun object call => ofFields object = call := by
    funext object call
    exact propext tells_iff
  rw [← List.forall₂_eq_eq_eq, List.forall₂_map_left_iff, htells]

theorem lists_iff : Lists message calls ↔ ofMessage message = .ok calls := by
  constructor
  · intro h
    unfold ofMessage
    cases h with
    | noObject hnone =>
      cases message with
      | obj fields => exact (hnone fields rfl).elim
      | _ => rfl
    | falsy hfalsy => exact if_neg (Bool.eq_false_iff.1 hfalsy)
    | list hitems hcalls =>
      rw [forall₂_tells_iff] at hcalls
      subst hcalls
      dsimp only
      rw [hitems]
      -- An empty list counts as none, which gives the same calls.
      split
      · rfl
      · next items hempty =>
        cases items with
        | nil => rfl
        | cons item items => exact (hempty rfl).elim
  · intro h
    unfold ofMessage at h
    cases message with
    | obj fields =>
      dsimp only at h
      split at h
      · split at h
        · next items hitems =>
          cases h
          exact .list hitems (forall₂_tells_iff.2 rfl)
        · cases h
      · next hfalsy =>
        cases h
        exact .falsy (Bool.eq_false_iff.2 hfalsy)
    | _ =>
      cases h
      exact .noObject nofun

end ToolCall

namespace Reply

variable {room status : Nat} {body : List UInt8} {reply : Reply}

/-- Whether bytes are those of a document of a value. -/
def Holds (room : Nat) (body : List UInt8) (v : Json) : Prop :=
  ∃ s, Text.Encoding.decode body = .ok s ∧ Json.Document room s v

/-- Whether there is room for what is inside one another in the body of an answer of success; the
body of any other is not read as JSON. -/
def Fits (room : Nat) (reply : Reply) : Prop :=
  ∀ status body s e, reply = .response status body → 200 ≤ status ∧ status ≤ 299 →
    Text.Encoding.decode body = .ok s → ¬Json.Overfull room s e

/-- Whether an answer gives calls: it is one of success, and the first choice of the object in its
body has a message that lists them. -/
inductive Gives (room : Nat) : Reply → List ToolCall → Prop
  | response {status : Nat} {body : List UInt8} {fields choice : Fields} {others : List Json}
    {calls : List ToolCall} (hstatus : 200 ≤ status ∧ status ≤ 299)
    (hbody : Holds room body (.obj fields))
    (hchoices : Json.field fields "choices" = .arr (.obj choice :: others))
    (hcalls : ToolCall.Lists (Json.field choice "message") calls) :
    Gives room (.response status body) calls

/-- Whether an answer is one of failure, or its body is no document. -/
def Refused (room status : Nat) (body : List UInt8) : Prop :=
  ¬(200 ≤ status ∧ status ≤ 299) ∨ ∀ v, ¬Holds room body v

theorem isSuccess_iff : Status.isSuccess status = true ↔ 200 ≤ status ∧ status ≤ 299 := by
  rw [Status.isSuccess, Bool.and_eq_true, decide_eq_true_iff, decide_eq_true_iff]

theorem holds_iff {v : Json} : Holds room body v ↔ bodyJson room body = .ok v := by
  rw [bodyJson, Holds]
  cases Text.Encoding.decode body with
  | error e => simp
  | ok s =>
    dsimp only
    rw [mapError_eq_ok_iff, Json.readChars_eq_ok_iff]
    constructor
    · rintro ⟨_, hs, h⟩
      cases hs
      exact h
    · exact fun h => ⟨s, rfl, h⟩

theorem ofResponse_eq_ok_iff {v : Json} :
    ToolCall.ofResponse v = .ok calls ↔
      ∃ fields choice others, v = .obj fields ∧
        Json.field fields "choices" = .arr (.obj choice :: others) ∧
          ToolCall.Lists (Json.field choice "message") calls := by
  constructor
  · intro h
    unfold ToolCall.ofResponse at h
    split at h
    · next fields =>
      split at h
      · next choice others hchoices =>
        exact ⟨fields, choice, others, rfl, hchoices, ToolCall.lists_iff.2 h⟩
      · cases h
    · cases h
  · rintro ⟨fields, choice, others, rfl, hchoices, hcalls⟩
    rw [ToolCall.ofResponse, hchoices]
    exact ToolCall.lists_iff.1 hcalls

theorem gives_iff : Gives room reply calls ↔ reply.calls room = .ok calls := by
  constructor
  · rintro ⟨hstatus, hbody, hchoices, hcalls⟩
    rw [Reply.calls, if_pos (isSuccess_iff.2 hstatus), holds_iff.1 hbody]
    exact mapError_eq_ok_iff.2 (ofResponse_eq_ok_iff.2 ⟨_, _, _, rfl, hchoices, hcalls⟩)
  · intro h
    cases reply with
    | failed message => cases h
    | response status body =>
      rw [Reply.calls] at h
      split at h
      · next hstatus =>
        split at h
        · cases h
        · cases h
        · next v hv =>
          obtain ⟨fields, choice, others, rfl, hchoices, hcalls⟩ :=
            ofResponse_eq_ok_iff.1 (mapError_eq_ok_iff.1 h)
          exact .response (isSuccess_iff.1 hstatus) (holds_iff.2 hv) hchoices hcalls
      · cases h

theorem Fits.exists_model_error (h : reply.Fits room) {e : ClientError}
    (he : reply.calls room = .error e) : ∃ fault, e = .model fault := by
  obtain hmodel | ⟨cause, rfl⟩ := error_cases he
  · exact hmodel
  · obtain ⟨status, body, s, hreply, hsuccess, hs, hover⟩ := calls_deep_iff.1 he
    exact absurd hover (h status body s cause hreply (isSuccess_iff.1 hsuccess) hs)

theorem calls_of_refused (hfits : (response status body).Fits room)
    (h : Refused room status body) :
    ∃ e, (response status body).calls room = .error (.model e) ∧ e.code? = some status ∧
      e.body? = some (bodyText body) := by
  cases hcalls : (response status body).calls room with
  | error e =>
    obtain ⟨fault, rfl⟩ := hfits.exists_model_error hcalls
    rw [calls] at hcalls
    split at hcalls
    · next hstatus =>
      split at hcalls
      · cases hcalls
      · cases hcalls
        exact ⟨_, rfl, rfl, rfl⟩
      · next v hv =>
        obtain hfailure | hnone := h
        · exact absurd (isSuccess_iff.1 hstatus) hfailure
        · exact absurd (holds_iff.2 hv) (hnone v)
    · cases hcalls
      exact ⟨_, rfl, rfl, rfl⟩
  | ok calls =>
    cases gives_iff.2 hcalls with
    | response hstatus hbody =>
      obtain hfailure | hnone := h
      · exact absurd hstatus hfailure
      · exact absurd hbody (hnone _)

theorem bodyText_encode (s : String) : bodyText (Text.Utf8.encode s.toList) = s := by
  rw [bodyText, Text.Utf8.decodeLossy_encode, String.ofList_toList]

end Reply

namespace Account

variable {account : Account} {room : Nat} {endpoint : Endpoint} {question : Question}

/-- Whether a question of an account can be sent: the endpoint takes it, the key is ASCII, and the
name of the model has no number that JSON does not have. -/
structure Sendable (account : Account) (endpoint : Endpoint) (question : Question) : Prop where
  taken : endpoint.refusal? (account.request question) = none
  key : Text.Codec.ascii.Writes account.key.display.toList
  model : account.model.isFinite = true

theorem Sendable.check (h : account.Sendable endpoint question) :
    endpoint.check (account.request question) = .ok () := by
  rw [Endpoint.check_eq_ok_iff, ChatRequest.check_eq_ok_iff]
  refine ⟨h.taken, ?_, h.model⟩
  change Text.Codec.ascii.Writes ("Bearer " ++ account.key.display).toList
  rw [String.toList_append, Text.Codec.writes_append]
  exact ⟨List.all_eq_true.1 rfl, h.key⟩

theorem Sendable.answer_ask (h : account.Sendable endpoint question) (room : Nat) :
    (account.ask room endpoint question).answer =
      (endpoint.reply (account.request question)).calls room := by
  rw [ask, h.check]

theorem Sendable.sent_ask (h : account.Sendable endpoint question) (room : Nat) :
    (account.ask room endpoint question).sent = [account.request question] := by
  rw [ask, h.check]

/-- Whatever becomes of a request, it is sent once and gives calls or a failure of the model. It
gives calls just where the answer gives them, and these; a failure that shows in the status or in
the body tells of both. -/
theorem one_request_gives_calls_or_fails (hsendable : account.Sendable endpoint question)
    (hfits : (endpoint.reply (account.request question)).Fits room) :
    let asked := account.ask room endpoint question
    let reply := endpoint.reply (account.request question)
    asked.sent = [account.request question] ∧
      ((∃ calls, asked.answer = .ok calls) ∨ ∃ e, asked.answer = .error (.model e)) ∧
      (∀ calls, asked.answer = .ok calls ↔ reply.Gives room calls) ∧
      ∀ status body, reply = .response status body → Reply.Refused room status body →
        ∃ e, asked.answer = .error (.model e) ∧ e.code? = some status ∧
          e.body? = some (Reply.bodyText body) := by
  intro asked reply
  have hanswer : asked.answer = reply.calls room := hsendable.answer_ask room
  rw [hanswer]
  refine ⟨hsendable.sent_ask room, ?_, ?_, ?_⟩
  · cases hcalls : reply.calls room with
    | ok calls => exact .inl ⟨calls, rfl⟩
    | error e =>
      obtain ⟨fault, rfl⟩ := hfits.exists_model_error hcalls
      exact .inr ⟨fault, rfl⟩
  · intro calls
    exact Reply.gives_iff.symm
  · intro status body hreply hrefused
    have hroom : reply.Fits room := hfits
    rw [hreply] at hroom ⊢
    exact Reply.calls_of_refused hroom hrefused

/-- A message with a call in a function, an item that is no call, and a call without a name. -/
def spokenMessage : Json :=
  .obj [("tool_calls", .arr
    [.obj [("function", .obj [("name", .str "create_page")])], .int 7,
      .obj [("name", .int 7), ("arguments", .str "x")]])]

def spoken : Json := .obj [("choices", .arr [.obj [("message", spokenMessage)]])]

theorem decode_spoken :
    Text.Encoding.decode (Text.Utf8.encode spoken.text.toList) = .ok spoken.text.toList := by
  decide +kernel

theorem document_spoken : Json.Document 1000 spoken.text.toList spoken := by
  have hdistinct : spoken.Distinct := by
    simp only [spoken, spokenMessage, Json.Distinct, Json.ItemsDistinct, Json.FieldsDistinct]
    decide
  exact Json.read_eq_ok_iff.1 (Json.read_text hdistinct (by decide))

theorem one_request_gives_calls_or_fails_spoken :
    let account : Account := ⟨.str "k", .str "m", "https://m.test"⟩
    let question : Question := ⟨"", "", []⟩
    let answering (status : Nat) (text : String) : Endpoint :=
      { reply := fun _ => .response status (Text.Utf8.encode text.toList) }
    let told := account.ask 1000 (answering 200 spoken.text) question
    let busy := account.ask 1000 (answering 429 "busy") question
    told.answer = .ok [⟨.str "create_page", .null⟩, ⟨.str "", .str "x"⟩] ∧
      ∃ e, busy.answer = .error (.model e) ∧ e.code? = some 429 ∧ e.body? = some "busy" := by
  intro account question answering told busy
  have hkey : Text.Codec.ascii.Writes "k".toList := List.all_eq_true.1 (by decide)
  have hsendable (status : Nat) (text : String) :
      account.Sendable (answering status text) question := ⟨rfl, hkey, rfl⟩
  have hspoken : ((answering 200 spoken.text).reply (account.request question)).Fits 1000 := by
    intro status body s e hreply _ hs
    obtain ⟨-, rfl⟩ := Reply.response.inj hreply
    obtain rfl : spoken.text.toList = s := Except.ok.inj (decode_spoken.symm.trans hs)
    exact document_spoken.not_overfull
  have hbusy : ((answering 429 "busy").reply (account.request question)).Fits 1000 := by
    intro status body s e hreply hsuccess
    obtain ⟨rfl, -⟩ := Reply.response.inj hreply
    omega
  have hcreate : ToolCall.Tells [("function", .obj [("name", .str "create_page")])]
      ⟨.str "create_page", .null⟩ :=
    ⟨_, _, .function rfl, .text "create_page", rfl⟩
  have hnameless : ToolCall.Tells [("name", .int 7), ("arguments", .str "x")]
      ⟨.str "", .str "x"⟩ :=
    ⟨_, _, .self nofun, .other nofun, rfl⟩
  have hlists : ToolCall.Lists spokenMessage
      [⟨.str "create_page", .null⟩, ⟨.str "", .str "x"⟩] :=
    .list rfl (.cons hcreate (.cons hnameless .nil))
  obtain ⟨-, -, hgives, -⟩ := one_request_gives_calls_or_fails (hsendable 200 _) hspoken
  obtain ⟨-, -, -, hrefused⟩ := one_request_gives_calls_or_fails (hsendable 429 _) hbusy
  obtain ⟨e, he, hcode, hbody⟩ := hrefused 429 _ rfl (.inl (by decide))
  rw [Reply.bodyText_encode] at hbody
  exact ⟨(hgives _).2 (.response (by decide) ⟨_, decode_spoken, document_spoken⟩ rfl hlists),
    e, he, hcode, hbody⟩

end Account

end Sitewright
