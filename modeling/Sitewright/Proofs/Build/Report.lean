import Sitewright.Proofs.Build.Decision
import Sitewright.Proofs.Build.Failed
import Sitewright.Proofs.Text.Codec

namespace Sitewright

/-- Whether what a model is asked with is text; there may be no key. -/
structure Settings.Textual (settings : Settings) : Prop where
  apiKey : settings.apiKey = .null ∨ ∃ key, settings.apiKey = .str key
  model : ∃ name, settings.model = .str name
  apiBase : ∃ base, settings.apiBase = .str base

/-- Whether the key of some settings has a character that a request cannot carry. -/
def Settings.ForeignKey (settings : Settings) : Prop :=
  ∃ key, settings.apiKey = .str key ∧ ¬Text.Codec.ascii.Writes key.toList

/-- Whether a file can be read but is no text. -/
def Files.Garbled (files : Files) (path : Path) : Prop :=
  ∃ bytes e, files.read path = .ok bytes ∧ textOfBytes bytes = .error e

/-- Whether a failure is of a kind that whoever asks for a build is told of. -/
def BuildError.Reported : BuildError → Prop
  | source _ | missingCredential | client (.model _) => True
  | encoding _ | address _ | client _ | halt _ => False

namespace Files

variable {files : Files} {path : Path} {bytes : List UInt8} {fault : Text.Utf8.Error}

theorem readText_eq_encoding_iff :
    files.readText path = .error (.encoding fault) ↔
      ∃ bytes, files.read path = .ok bytes ∧ textOfBytes bytes = .error fault := by
  unfold readText
  constructor
  · intro h
    split at h
    · cases h
    · next bytes hread =>
      obtain ⟨cause, hd, he⟩ := mapError_eq_error_iff.1 h
      cases he
      exact ⟨bytes, hread, hd⟩
  · rintro ⟨bytes, hread, hd⟩
    rw [hread]
    exact mapError_eq_error_iff.2 ⟨fault, hd, rfl⟩

theorem modified_of_read (h : files.read path = .ok bytes) :
    ∃ modified, files.modified path = .ok modified := by
  unfold read at h
  split at h
  · next modified hfound => exact ⟨modified, modified_eq_ok_iff.2 ⟨_, find_eq_ok_iff.1 hfound, rfl⟩⟩
  · cases h
  · cases h

end Files

theorem Snapshot.unreported_iff {settings : Settings} {files : Files} :
    (∃ e, of settings files = .error e ∧ ¬e.Reported) ↔ files.Garbled settings.source := by
  unfold of take Meanwhile.nothing
  dsimp only
  constructor
  · rintro ⟨e, h, hunreported⟩
    split at h
    · obtain rfl := Except.error.inj h
      exact absurd trivial hunreported
    · split at h
      · next cause hcause =>
        obtain rfl := Except.error.inj h
        cases cause with
        | file fault => exact absurd trivial hunreported
        | encoding fault =>
          obtain ⟨bytes, hb, hd⟩ := Files.readText_eq_encoding_iff.1 hcause
          exact ⟨bytes, fault, hb, hd⟩
      · cases h
  · rintro ⟨bytes, fault, hb, hd⟩
    obtain ⟨modified, hm⟩ := Files.modified_of_read hb
    rw [hm]
    dsimp only
    rw [Files.readText_eq_encoding_iff.2 ⟨bytes, hb, hd⟩]
    exact ⟨.encoding fault, rfl, id⟩

theorem ChatRequest.check_eq_ok_iff {request : ChatRequest} :
    request.check = .ok () ↔
      Text.Codec.ascii.Writes request.authorization.toList ∧ request.model.isFinite = true := by
  rw [check, ← Text.Codec.unencodable?_eq_none_iff]
  cases Text.Codec.ascii.unencodable? request.authorization.toList with
  | some e => exact iff_of_false nofun fun h => nomatch h.1
  | none =>
    dsimp only
    split
    · next h => exact iff_of_true rfl ⟨rfl, h⟩
    · next h => exact iff_of_false nofun fun h' => h h'.2

theorem Account.check_request {key name : String} (base : String) (question : Question) :
    (request ⟨.str key, .str name, base⟩ question).check = .ok () ↔
      Text.Codec.ascii.Writes key.toList := by
  rw [ChatRequest.check_eq_ok_iff]
  change Text.Codec.ascii.Writes ("Bearer " ++ key).toList ∧ true = true ↔ _
  rw [and_iff_left rfl, String.toList_append, Text.Codec.writes_append]
  exact and_iff_right (List.all_eq_true.1 rfl)

theorem Endpoint.check_eq_ok_iff {endpoint : Endpoint} {request : ChatRequest} :
    endpoint.check request = .ok () ↔
      endpoint.refusal? request = none ∧ request.check = .ok () := by
  rw [check]
  cases endpoint.refusal? request with
  | none => exact (and_iff_right rfl).symm
  | some said => exact iff_of_false nofun fun h => nomatch h.1

/-- The body of a reply breaks the reading of calls off just where it goes too deep. -/
theorem Reply.calls_deep_iff {room : Nat} {reply : Reply} {e : Json.TooDeep} :
    reply.calls room = .error (.deep e) ↔
      ∃ status body s, reply = .response status body ∧ Status.isSuccess status = true ∧
        Text.Encoding.decode body = .ok s ∧ Json.Overfull room s e := by
  constructor
  · intro h
    rw [calls.eq_def] at h
    split at h
    · cases h
    · next status body =>
      split at h
      · next hsuccess =>
        split at h
        · next hbody =>
          cases h
          rw [bodyJson] at hbody
          split at hbody
          · cases hbody
          · next s hs =>
            obtain ⟨cause, hread, hcause⟩ := mapError_eq_error_iff.1 hbody
            cases hcause
            exact ⟨status, body, s, rfl, hsuccess, hs, Json.readChars_deep_iff.1 hread⟩
        · cases h
        · obtain ⟨cause, -, hcause⟩ := mapError_eq_error_iff.1 h
          cases hcause
      · cases h
  · rintro ⟨status, body, s, rfl, hsuccess, hs, hover⟩
    rw [calls, if_pos hsuccess, bodyJson, hs]
    dsimp only
    rw [Json.readChars_deep_iff.2 hover]
    rfl

/-- What a reply fails with is told, unless its body goes too deep. -/
theorem Reply.error_cases {room : Nat} {reply : Reply} {e : ClientError}
    (h : reply.calls room = .error e) :
    (∃ cause, e = .model cause) ∨ ∃ cause, e = .deep cause := by
  rw [calls.eq_def] at h
  split at h
  · cases h
    exact .inl ⟨_, rfl⟩
  · split at h
    · split at h
      · cases h
        exact .inr ⟨_, rfl⟩
      · cases h
        exact .inl ⟨_, rfl⟩
      · obtain ⟨cause, -, rfl⟩ := mapError_eq_error_iff.1 h
        exact .inl ⟨cause, rfl⟩
    · cases h
      exact .inl ⟨_, rfl⟩

/-- Asking fails untold just where nothing can be sent, or what is answered goes too deep. -/
theorem Account.unreported_iff {account : Account} {room : Nat} {endpoint : Endpoint}
    {question : Question} :
    (∃ e, (account.ask room endpoint question).answer = .error e ∧
        ¬(BuildError.client e).Reported) ↔
      endpoint.check (account.request question) ≠ .ok () ∨
        endpoint.check (account.request question) = .ok () ∧
          ∃ e, (endpoint.reply (account.request question)).calls room = .error (.deep e) := by
  rw [ask]
  cases endpoint.check (account.request question) with
  | error cause => exact iff_of_true ⟨_, rfl, id⟩ (.inl (by simp))
  | ok sendable =>
    constructor
    · rintro ⟨e, h, hunreported⟩
      obtain ⟨fault, rfl⟩ | ⟨cause, rfl⟩ := Reply.error_cases h
      · exact absurd trivial hunreported
      · exact .inr ⟨rfl, cause, h⟩
    · rintro (hunsent | ⟨-, cause, h⟩)
      · exact absurd rfl hunsent
      · exact ⟨_, h, id⟩

theorem Settings.Textual.account_cases {settings : Settings} (ht : settings.Textual) :
    (¬settings.ForeignKey ∧ settings.account = .error .missingCredential) ∨
      ∃ key name base, settings.apiKey = .str key ∧
        settings.account = .ok ⟨.str key, .str name, base⟩ := by
  obtain ⟨name, hm⟩ := ht.model
  obtain ⟨base, hb⟩ := ht.apiBase
  rw [account, hb, hm, ForeignKey]
  obtain hnull | ⟨key, hkey⟩ := ht.apiKey
  · rw [hnull]
    exact .inl ⟨by simp, rfl⟩
  · rw [hkey]
    obtain rfl | hne := eq_or_ne key ""
    · refine .inl ⟨?_, rfl⟩
      rintro ⟨_, h, hforeign⟩
      cases h
      exact hforeign (List.forall_mem_nil _)
    · have htruthy : (Json.str key).truthy = true := bne_iff_ne.2 hne
      rw [if_pos htruthy]
      exact .inr ⟨key, name, base, rfl, rfl⟩

namespace Compiler

variable {compiler : Compiler} {force : Bool} {now : Moment} {files : Files}
  {question : Question} {endpoint : Endpoint}

/-- Whether a build has a request to send over an endpoint. -/
structure Requests (compiler : Compiler) (force : Bool) (files : Files) (endpoint : Endpoint)
    (request : ChatRequest) : Prop where
  client : compiler.client = .remote endpoint
  asked : ∃ snapshot account, Snapshot.of compiler.settings files = .ok snapshot ∧
    compiler.Renews force files snapshot ∧ compiler.settings.account = .ok account ∧
    request = account.request (snapshot.question compiler.registry.definitions)

/-- The ways in which asking over an endpoint fails that nobody is told of. -/
inductive Unanswered (compiler : Compiler) (endpoint : Endpoint) (request : ChatRequest) : Prop
  | refused {said : String} (h : endpoint.refusal? request = some said)
  | key (h : compiler.settings.ForeignKey)
  | deep {status : Nat} {body : List UInt8} {s : List Char} {e : Json.TooDeep}
    (hsent : endpoint.check request = .ok ())
    (hreply : endpoint.reply request = .response status body)
    (hsuccess : Status.isSuccess status = true) (hs : Text.Encoding.decode body = .ok s)
    (h : Json.Overfull compiler.platform.nesting s e)

theorem ask_remote_answer {account : Account} (hclient : compiler.client = .remote endpoint)
    (haccount : compiler.settings.account = .ok account) (question : Question) :
    (compiler.ask question).2.answer =
      (account.ask compiler.platform.nesting endpoint question).answer.mapError .client := by
  simp only [ask, hclient, haccount]

theorem unanswered_iff {request : ChatRequest}
    (hkey : compiler.settings.ForeignKey ↔ request.check ≠ .ok ()) :
    compiler.Unanswered endpoint request ↔
      endpoint.check request ≠ .ok () ∨ endpoint.check request = .ok () ∧
        ∃ e, (endpoint.reply request).calls compiler.platform.nesting = .error (.deep e) := by
  constructor
  · intro h
    cases h with
    | refused h =>
      apply Or.inl
      intro hcheck
      cases h.symm.trans (Endpoint.check_eq_ok_iff.1 hcheck).1
    | key h => exact .inl fun hcheck => hkey.1 h (Endpoint.check_eq_ok_iff.1 hcheck).2
    | deep hsent hreply hsuccess hs h =>
      exact .inr ⟨hsent, _, Reply.calls_deep_iff.2 ⟨_, _, _, hreply, hsuccess, hs, h⟩⟩
  · rintro (hunsent | ⟨hsent, e, hcalls⟩)
    · cases hrefusal : endpoint.refusal? request with
      | some said => exact .refused hrefusal
      | none =>
        -- No other part of the request than the key can keep it from being written.
        apply Unanswered.key
        rw [hkey]
        intro hwritten
        exact hunsent (Endpoint.check_eq_ok_iff.2 ⟨hrefusal, hwritten⟩)
    · obtain ⟨status, body, s, hreply, hsuccess, hs, h⟩ := Reply.calls_deep_iff.1 hcalls
      exact .deep hsent hreply hsuccess hs h

theorem ask_unreported_iff (ht : compiler.settings.Textual)
    (hclient : compiler.client = .remote endpoint) (question : Question) :
    (∃ e, (compiler.ask question).2.answer = .error e ∧ ¬e.Reported) ↔
      ∃ account, compiler.settings.account = .ok account ∧
        compiler.Unanswered endpoint (account.request question) := by
  obtain ⟨hkey, haccount⟩ | ⟨key, name, base, hkey, haccount⟩ := ht.account_cases
  · apply iff_of_false
    · rw [ask, hclient]
      dsimp only
      rw [haccount]
      rintro ⟨e, h, hunreported⟩
      cases h
      exact hunreported trivial
    · rintro ⟨account, h, _⟩
      cases haccount.symm.trans h
  · have hforeign : compiler.settings.ForeignKey ↔
        (Account.request ⟨.str key, .str name, base⟩ question).check ≠ .ok () := by
      rw [Ne, Account.check_request, Settings.ForeignKey, hkey]
      simp
    simp only [haccount, Except.ok.injEq, exists_eq_left', unanswered_iff hforeign,
      ask_remote_answer hclient haccount, mapError_eq_error_iff, ← Account.unreported_iff]
    constructor
    · rintro ⟨_, ⟨e, h, rfl⟩, hunreported⟩
      exact ⟨e, h, hunreported⟩
    · rintro ⟨e, h, hunreported⟩
      exact ⟨_, ⟨e, h, rfl⟩, hunreported⟩

theorem exists_account_of_answer {calls : List ToolCall}
    (hclient : compiler.client = .remote endpoint)
    (ha : (compiler.ask question).2.answer = .ok calls) :
    ∃ account : Account, (account.ask compiler.platform.nesting endpoint question).answer =
      .ok calls := by
  cases haccount : compiler.settings.account with
  | error e =>
    simp only [ask, hclient, haccount] at ha
    cases ha
  | ok account =>
    rw [ask_remote_answer hclient haccount] at ha
    exact ⟨account, mapError_eq_ok_iff.1 ha⟩

/-- There is always room to keep the plan of what a model answers. -/
theorem depth_of_answer (ht : compiler.settings.Textual)
    (hclient : compiler.client = .remote endpoint) {calls : List ToolCall}
    (ha : (compiler.ask question).2.answer = .ok calls) (snapshot : Snapshot) (now : Moment) :
    (snapshot.plan compiler.settings now calls).toJson.depth ≤ compiler.platform.nesting := by
  obtain ⟨name, hmodel⟩ := ht.model
  obtain ⟨base, hbase⟩ := ht.apiBase
  obtain ⟨account, hasked⟩ := exists_account_of_answer hclient ha
  obtain ⟨hroom, hcalls⟩ := Account.shallow_of_ask hasked
  have htext (s : String) : (Json.str s).depth < compiler.platform.nesting :=
    Nat.lt_of_lt_of_le Nat.two_pos hroom
  apply Plan.depth_toJson_le hroom hcalls
  · exact lt_of_eq_of_lt (congrArg Json.depth hmodel) (htext name)
  · exact lt_of_eq_of_lt (congrArg Json.depth hbase) (htext base)

theorem not_breaksOff (ht : compiler.settings.Textual)
    (hclient : compiler.client = .remote endpoint) {plan : Plan} {e : Json.TooDeep} :
    ¬compiler.BreaksOff force now files plan e := by
  intro h
  obtain ⟨snapshot, calls, -, hanswer, hmade⟩ := planFor_compiled h.made
  have hroom := depth_of_answer ht hclient hanswer snapshot now
  exact absurd (hmade ▸ h.left.1) (Nat.not_lt.2 hroom)

/-- The ways in which a build fails that nobody is told of: the source is no text, the kept plan
goes too deep, the model that has to be asked is not to be had, a call of the plan halts, or
somebody at hand who is asked fails in such a way, or answers with what goes too deep. -/
inductive Escapes (compiler : Compiler) (force : Bool) (now : Moment) (files : Files) : Prop
  | source (h : files.Garbled compiler.settings.source)
  | plan {snapshot : Snapshot} {e : Json.TooDeep}
    (hfound : Snapshot.of compiler.settings files = .ok snapshot)
    (h : compiler.Overfilled force files e)
  | model {endpoint : Endpoint} {request : ChatRequest}
    (hrequest : compiler.Requests force files endpoint request)
    (h : compiler.Unanswered endpoint request)
  | call {status : BuildStatus} {plan : Plan} {call : ToolCall} {cause : Json.Halt}
    (hplan : compiler.planFor force now files = .ok (status, plan)) (hcall : call ∈ plan.calls)
    (h : compiler.interpreter.Halts call cause)
  | own {answer : Question → Except BuildError (List ToolCall)} {snapshot : Snapshot}
    {e : BuildError} (hclient : compiler.client = .own answer)
    (hfound : Snapshot.of compiler.settings files = .ok snapshot)
    (hnew : compiler.Renews force files snapshot)
    (h : answer (snapshot.question compiler.registry.definitions) = .error e)
    (hunreported : ¬e.Reported)
  | unkept {answer : Question → Except BuildError (List ToolCall)} {plan : Plan}
    {e : Json.TooDeep} (hclient : compiler.client = .own answer)
    (h : compiler.BreaksOff force now files plan e)

theorem escapes_of_planless (ht : compiler.settings.Textual) {e : BuildError}
    (h : compiler.planFor force now files = .error e) (hunreported : ¬e.Reported) :
    compiler.Escapes force now files := by
  rcases planFor_error_iff.1 h with hsource | ⟨snapshot, hfound, hunread | ⟨hnew, hanswer⟩⟩
  · exact .source (Snapshot.unreported_iff.1 ⟨e, hsource, hunreported⟩)
  · obtain ⟨cause, hunread, -⟩ := hunread
    exact .plan hfound (unread_iff_overfilled.1 hunread)
  · cases hclient : compiler.client with
    | own answer =>
      rw [ask_own hclient] at hanswer
      exact .own hclient hfound hnew hanswer hunreported
    | remote endpoint =>
      obtain ⟨account, haccount, hunanswered⟩ :=
        (ask_unreported_iff ht hclient _).1 ⟨e, hanswer, hunreported⟩
      exact .model ⟨hclient, snapshot, account, hfound, hnew, haccount, rfl⟩ hunanswered

theorem planless_of_asked {snapshot : Snapshot} {e : BuildError}
    (hfound : Snapshot.of compiler.settings files = .ok snapshot)
    (hnew : compiler.Renews force files snapshot)
    (h : (compiler.ask (snapshot.question compiler.registry.definitions)).2.answer = .error e) :
    (compiler.build force now files).result = .error e :=
  build_error_iff.2 (.planless (planFor_error_iff.2 (.inr ⟨snapshot, hfound, .inr ⟨hnew, h⟩⟩)))

theorem fails_of_halts {status : BuildStatus} {plan : Plan} {call : ToolCall} {cause : Json.Halt}
    (hplan : compiler.planFor force now files = .ok (status, plan)) (hcall : call ∈ plan.calls)
    (h : compiler.interpreter.Halts call cause) :
    ∃ halt, compiler.Fails force now files (.halt halt) := by
  obtain ⟨stopped, hstops⟩ := (Interpreter.stops_iff _ _).2 ⟨_, hcall, _, h⟩
  cases status with
  | cached => exact ⟨_, .again hplan hstops⟩
  | compiled =>
    by_cases hdeep : ∃ e, (plan.save compiler.platform compiler.settings.cache files).failure? =
        some (.deep e)
    · obtain ⟨e, hunkept⟩ := hdeep
      exact ⟨_, .unkept ⟨hplan, hunkept⟩⟩
    · exact ⟨_, .anew ⟨hplan, fun e he => hdeep ⟨e, he⟩, hstops⟩⟩

theorem unreported_iff (ht : compiler.settings.Textual) :
    (∃ e, (compiler.build force now files).result = .error e ∧ ¬e.Reported) ↔
      compiler.Escapes force now files := by
  constructor
  · rintro ⟨e, he, hunreported⟩
    cases build_error_iff.1 he with
    | planless h => exact escapes_of_planless ht h hunreported
    | unkept h =>
      cases hclient : compiler.client with
      | own answer => exact .unkept hclient h
      | remote endpoint => exact absurd h (not_breaksOff ht hclient)
    | anew h =>
      obtain ⟨call, hcall, hhalts⟩ := Interpreter.halts_of_replay h.stops
      exact .call h.made hcall hhalts
    | again hplan hstops =>
      obtain ⟨call, hcall, hhalts⟩ := Interpreter.halts_of_replay hstops
      exact .call hplan hcall hhalts
  · intro h
    cases h with
    | source h =>
      obtain ⟨e, he, hunreported⟩ := Snapshot.unreported_iff.2 h
      exact ⟨e, build_error_iff.2 (.planless (planFor_error_iff.2 (.inl he))), hunreported⟩
    | plan hfound h => exact ⟨_, (build_of_overfilled hfound h now).1, id⟩
    | model hrequest h =>
      obtain ⟨snapshot, account, hfound, hnew, haccount, rfl⟩ := hrequest.asked
      obtain ⟨e, he, hunreported⟩ :=
        (ask_unreported_iff ht hrequest.client _).2 ⟨account, haccount, h⟩
      exact ⟨e, planless_of_asked hfound hnew he, hunreported⟩
    | call hplan hcall h =>
      obtain ⟨halt, hfails⟩ := fails_of_halts hplan hcall h
      exact ⟨_, build_error_iff.2 hfails, id⟩
    | own hclient hfound hnew h hunreported =>
      exact ⟨_, planless_of_asked hfound hnew (by rw [ask_own hclient, h]), hunreported⟩
    | unkept _ h => exact ⟨_, build_error_iff.2 (.unkept h), id⟩

end Compiler

end Sitewright
