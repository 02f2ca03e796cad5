import Sitewright.Proofs.Json.Document
import Sitewright.Proofs.Json.Overfull
import Sitewright.Proofs.Tool.Replay

namespace Sitewright

/-- Whether something fails just when `P` holds, and only since an integer is too long to be
shown. -/
def ShownUnless {α : Type} (P : Prop) (x : Except Text.LongInteger α) : Prop :=
  ∀ e, x = .error e ↔ e = .shown ∧ P

section

variable {α β : Type} {P Q : Prop} {x : Except Text.LongInteger α}

theorem ShownUnless.ok (a : α) (h : ¬P) : ShownUnless P (.ok a) :=
  fun _ => iff_of_false nofun fun hp => h hp.2

theorem ShownUnless.map (h : ShownUnless P x) (f : α → β) : ShownUnless P (x.map f) := by
  intro e
  rw [← h e]
  cases x with
  | error e' => rw [Except.map, Except.error.injEq, Except.error.injEq]
  | ok a => exact iff_of_false nofun nofun

theorem ShownUnless.bind {f : α → Except Text.LongInteger β} (hx : ShownUnless P x)
    (hf : ∀ a, ShownUnless Q (f a)) : ShownUnless (P ∨ Q) (x >>= f) := by
  intro e
  cases x with
  | error e' =>
    obtain ⟨rfl, hp⟩ := (hx e').1 rfl
    exact ⟨fun h => ⟨(Except.error.inj h).symm, .inl hp⟩, fun h => h.1 ▸ rfl⟩
  | ok a =>
    have hp : ¬P := fun hp => nomatch (hx .shown).2 ⟨rfl, hp⟩
    rw [or_iff_right hp]
    exact hf a e

end

namespace Json

/-- Whether an integer inside a value is too long to be shown. -/
def Overlong (v : Json) : Prop := v.long?.isSome = true

theorem Overlong.truthy {v : Json} (h : v.Overlong) : v.truthy = true := by
  cases v with
  | int n =>
    obtain rfl | hn := eq_or_ne n 0
    · cases h
    · exact bne_iff_ne.2 hn
  | arr items =>
    cases items with
    | nil => cases h
    | cons item items => rfl
  | obj fields =>
    cases fields with
    | nil => cases h
    | cons entry fields => rfl
  | _ => cases h

theorem Overlong.text? {v : Json} (h : v.Overlong) : v.text? = none := by
  cases v with
  | str s => cases h
  | _ => rfl

theorem Overlong.null? {v : Json} (h : v.Overlong) : v.null? = false := by
  cases v with
  | null => cases h
  | _ => rfl

theorem showing_unless {α : Type} (v : Json) (made : α) :
    ShownUnless v.Overlong (v.showing made) := by
  intro e
  rw [showing, Overlong]
  split
  · next h => exact ⟨fun he => ⟨(Except.error.inj he).symm, h⟩, fun he => he.1 ▸ rfl⟩
  · next h => exact iff_of_false nofun fun he => h he.2

theorem shown_unless (v : Json) : ShownUnless v.Overlong v.shown := showing_unless v _

theorem shownOrEmpty_unless (v : Json) : ShownUnless v.Overlong v.shownOrEmpty := by
  rw [shownOrEmpty]
  split
  · next h => exact .ok _ fun hv => Bool.noConfusion (h.symm.trans hv.null?)
  · exact shown_unless v

end Json

namespace Image

theorem optional_unless (name : String) (v : Json) :
    ShownUnless v.Overlong (optional name v) := by
  rw [optional]
  split
  · exact (Json.shown_unless v).map _
  · next h => exact .ok _ fun hv => h hv.truthy

theorem tag_unless (image : Image) :
    ShownUnless (image.alt.Overlong ∨ image.className.Overlong ∨ image.width.Overlong ∨
      image.height.Overlong) image.tag := by
  apply ShownUnless.map
  apply image.alt.shownOrEmpty_unless.bind
  intro alt
  apply (optional_unless "class" image.className).bind
  intro className
  apply (optional_unless "width" image.width).bind
  intro width
  exact (optional_unless "height" image.height).map _

end Image

namespace Tool

variable {α β : Type} {h : Json.Halt}

theorem bind_fault_eq_halt_iff {x : Except ArgumentFault α} {f : α → Except ArgumentsError β} :
    x.mapError .fault >>= f = .error (.halt h) ↔ ∃ a, x = .ok a ∧ f a = .error (.halt h) := by
  cases x with
  | error fault => exact iff_of_false nofun nofun
  | ok a => exact ⟨fun hf => ⟨a, rfl, hf⟩, fun ⟨_, ha, hf⟩ => Except.ok.inj ha ▸ hf⟩

theorem bind_pure_eq_halt_iff {x : Except ArgumentsError α} {f : α → β} :
    x >>= (fun a => pure (f a)) = .error (.halt h) ↔ x = .error (.halt h) := by
  cases x with
  | error e' =>
    have hinj {γ : Type} : (.error e' : Except ArgumentsError γ) = .error (.halt h) ↔
        e' = .halt h := ⟨Except.error.inj, congrArg _⟩
    exact hinj.trans hinj.symm
  | ok a => exact iff_of_false nofun nofun

theorem mapError_long_eq_halt_iff {P : Prop} {x : Except Text.LongInteger α}
    (hx : ShownUnless P x) :
    x.mapError ArgumentsError.long = .error (.halt h) ↔ h = .long .shown ∧ P := by
  rw [mapError_eq_error_iff]
  constructor
  · rintro ⟨e, he, hlong⟩
    cases hlong
    obtain ⟨rfl, hp⟩ := (hx e).1 he
    exact ⟨rfl, hp⟩
  · rintro ⟨rfl, hp⟩
    exact ⟨.shown, (hx .shown).2 ⟨rfl, hp⟩, rfl⟩

theorem bind_long_eq_halt_iff {P Q : Prop} {x : Except Text.LongInteger α}
    {f : α → Except ArgumentsError β} (hx : ShownUnless P x)
    (hf : ∀ a, f a = .error (.halt h) ↔ h = .long .shown ∧ Q) :
    x.mapError .long >>= f = .error (.halt h) ↔ h = .long .shown ∧ (P ∨ Q) := by
  cases x with
  | error e' =>
    obtain ⟨rfl, hp⟩ := (hx e').1 rfl
    constructor
    · intro hlong
      exact ⟨(ArgumentsError.halt.inj (Except.error.inj hlong)).symm, .inl hp⟩
    · rintro ⟨rfl, -⟩
      rfl
  | ok a =>
    have hp : ¬P := fun hp => nomatch (hx .shown).2 ⟨rfl, hp⟩
    rw [or_iff_right hp]
    exact hf a

/-- Whether a tool has to show an integer that is too long: in what it would write, or in the
complaint about a kind. -/
def Overlong (tool : Tool) (args : Fields) : Prop :=
  match tool with
  | createPage => False
  | addDynamicContent =>
    (∃ path, pathArgument args = .ok path) ∧
      (∃ placeholder, nonEmptyArgument args "placeholder" .placeholder = .ok placeholder) ∧
      (kindGiven args).Overlong
  | addAsset =>
    (∃ path, pathArgument args = .ok path) ∧
      (∃ asset, nonEmptyArgument args "asset" .asset = .ok asset) ∧
      ((Json.field args "alt").Overlong ∨ (Json.field args "className").Overlong ∨
        (Json.field args "width").Overlong ∨ (Json.field args "height").Overlong)
  | setLayout =>
    (Json.field args "header_html").Overlong ∨ (Json.field args "footer_html").Overlong

theorem kindArgument_eq_halt_iff (args : Fields) :
    kindArgument args = .error (.halt h) ↔ h = .long .shown ∧ (kindGiven args).Overlong := by
  have hshowing := Json.showing_unless (kindGiven args) (ArgumentFault.kind (kindGiven args))
  rw [← mapError_long_eq_halt_iff hshowing, kindArgument]
  split
  · next kind hkind =>
    apply iff_of_false nofun
    intro he
    obtain ⟨-, hlong⟩ := (mapError_long_eq_halt_iff hshowing).1 he
    rw [hlong.text?] at hkind
    cases hkind
  · split
    · next fault hfault =>
      rw [hfault]
      exact iff_of_false nofun nofun
    · next e he =>
      rw [he]
      exact ⟨fun h => Except.error.inj h ▸ rfl, fun h => Except.error.inj h ▸ rfl⟩

theorem edit_eq_halt_iff (tool : Tool) (args : Fields) (h : Json.Halt) :
    tool.edit args = .error (.halt h) ↔ h = .long .shown ∧ tool.Overlong args := by
  cases tool with
  | createPage =>
    apply iff_of_false
    · intro h
      obtain ⟨path, -, h⟩ := bind_fault_eq_halt_iff.1 h
      obtain ⟨content, -, h⟩ := bind_fault_eq_halt_iff.1 h
      cases h
    · exact fun h => h.2
  -- A fault of an earlier argument is found first, and nothing is shown then.
  | addDynamicContent =>
    constructor
    · intro h
      obtain ⟨path, hpath, h⟩ := bind_fault_eq_halt_iff.1 h
      obtain ⟨placeholder, hplaceholder, h⟩ := bind_fault_eq_halt_iff.1 h
      obtain ⟨he, hkind⟩ := (kindArgument_eq_halt_iff args).1 (bind_pure_eq_halt_iff.1 h)
      exact ⟨he, ⟨path, hpath⟩, ⟨placeholder, hplaceholder⟩, hkind⟩
    · rintro ⟨he, ⟨path, hpath⟩, ⟨placeholder, hplaceholder⟩, hkind⟩
      have h := (kindArgument_eq_halt_iff args).2 ⟨he, hkind⟩
      apply bind_fault_eq_halt_iff.2 ⟨path, hpath, _⟩
      apply bind_fault_eq_halt_iff.2 ⟨placeholder, hplaceholder, _⟩
      exact bind_pure_eq_halt_iff.2 h
  | addAsset =>
    constructor
    · intro h
      obtain ⟨path, hpath, h⟩ := bind_fault_eq_halt_iff.1 h
      obtain ⟨asset, hasset, h⟩ := bind_fault_eq_halt_iff.1 h
      have htag := (imageArgument args asset).tag_unless
      obtain ⟨he, himage⟩ := (mapError_long_eq_halt_iff htag).1 (bind_pure_eq_halt_iff.1 h)
      exact ⟨he, ⟨path, hpath⟩, ⟨asset, hasset⟩, himage⟩
    · rintro ⟨he, ⟨path, hpath⟩, ⟨asset, hasset⟩, himage⟩
      have htag := (mapError_long_eq_halt_iff (imageArgument args asset).tag_unless).2 ⟨he, himage⟩
      apply bind_fault_eq_halt_iff.2 ⟨path, hpath, _⟩
      apply bind_fault_eq_halt_iff.2 ⟨asset, hasset, _⟩
      exact bind_pure_eq_halt_iff.2 htag
  | setLayout =>
    have hheader := (Json.field args "header_html").shownOrEmpty_unless
    have hfooter := (Json.field args "footer_html").shownOrEmpty_unless
    apply bind_long_eq_halt_iff hheader
    intro header
    exact bind_pure_eq_halt_iff.trans (mapError_long_eq_halt_iff hfooter)

end Tool

variable {room : Nat}

/-- A blank text has neither digits that could be too many nor brackets. -/
theorem argumentsOfText_eq_halt_iff (text : String) (h : Json.Halt) :
    argumentsOfText room text = .error (.halt h) ↔ Json.read room text = .error (.halt h) := by
  rw [argumentsOfText]
  split
  · next hblank =>
    apply iff_of_false nofun
    intro hread
    cases h with
    | long e =>
      obtain ⟨run, -, hlong, hrun, hdigits⟩ := Json.longRun_of_read hread
      obtain ⟨c, hc⟩ := List.exists_mem_of_length_pos (Nat.lt_of_le_of_lt (Nat.zero_le _) hlong)
      have hspace := List.all_eq_true.1 hblank c (hrun.subset hc)
      exact Text.not_isBlank_of_isDigit (hdigits c hc) hspace
    | deep e =>
      obtain ⟨c, hc, hbracket⟩ := (Json.read_deep_iff.1 hread).exists_bracket
      have hspace := List.all_eq_true.1 hblank c hc
      obtain rfl | rfl := hbracket
      · cases hspace
      · cases hspace
  · cases Json.read room text with
    | ok v => cases v <;> exact iff_of_false nofun nofun
    | error cause =>
      cases cause with
      | malformed e' => exact iff_of_false nofun nofun
      | halt h' =>
        rw [Except.error.injEq, Except.error.injEq, ArgumentsError.halt.injEq,
          Json.ReadError.halt.injEq]

theorem arguments_eq_halt_iff (v : Json) (h : Json.Halt) :
    arguments room v = .error (.halt h) ↔
      ∃ text, v = .str text ∧ Json.read room text = .error (.halt h) := by
  cases v with
  | str text =>
    rw [arguments, argumentsOfText_eq_halt_iff]
    exact ⟨fun h => ⟨text, rfl, h⟩, fun ⟨_, hs, h⟩ => Json.str.inj hs ▸ h⟩
  | _ => exact iff_of_false nofun fun ⟨_, hs, _⟩ => nomatch hs

namespace Interpreter

variable {interpreter : Interpreter} {call : ToolCall} {calls : List ToolCall} {e : Json.Halt}

/-- Whether a call stops a replay: its arguments are a text that cannot be read to its end, since
an integer in it is too long or it goes too deep, or its tool has to show an integer that is too
long. -/
def Halts (interpreter : Interpreter) (call : ToolCall) (e : Json.Halt) : Prop :=
  call.label ≠ "" ∧ ∃ tool, interpreter.registry.get? call.label = some tool ∧
    ((∃ text, call.arguments = .str text ∧
        Json.read interpreter.nesting text = .error (.halt e)) ∨
      ∃ args, arguments interpreter.nesting call.arguments = .ok args ∧ e = .long .shown ∧
        tool.Overlong args)

theorem judge_eq_error_iff (interpreter : Interpreter) (call : ToolCall) (e : Json.Halt) :
    interpreter.judge call = .error e ↔ interpreter.Halts call e := by
  constructor
  · intro h
    unfold judge at h
    split at h
    · cases h
    · next hlabel =>
      split at h
      · cases h
      · next tool htool =>
        refine ⟨hlabel, tool, htool, ?_⟩
        split at h
        · next hargs =>
          cases h
          exact .inl ((arguments_eq_halt_iff _ _).1 hargs)
        · cases h
        · next args hargs =>
          split at h
          · cases h
          · cases h
          · next hedit =>
            cases h
            exact .inr ⟨args, hargs, (Tool.edit_eq_halt_iff tool args _).1 hedit⟩
  · rintro ⟨hlabel, tool, htool, htext | ⟨args, hargs, hoverlong⟩⟩
    · have hargs := (arguments_eq_halt_iff _ _).2 htext
      rw [judge, if_neg hlabel]
      simp only [htool, hargs]
    · have hedit := (Tool.edit_eq_halt_iff tool args e).2 hoverlong
      rw [judge, if_neg hlabel]
      simp only [htool, hargs, hedit]

theorem exists_judged_iff (interpreter : Interpreter) (call : ToolCall) :
    (∃ verdict, interpreter.judge call = .ok verdict) ↔ ∀ e, ¬interpreter.Halts call e := by
  simp only [← judge_eq_error_iff]
  cases interpreter.judge call with
  | ok verdict => exact iff_of_true ⟨verdict, rfl⟩ nofun
  | error e => exact iff_of_false nofun fun h => h e rfl

/-- A replay returns just when none of its calls halts: it has then carried out every call that is
accepted and put every other on record. The first call that halts stops it. -/
theorem replay_returns_iff (interpreter : Interpreter) (calls : List ToolCall) :
    (∀ call e, interpreter.judge call = .error e ↔ interpreter.Halts call e) ∧
    (∀ r, interpreter.replay calls = .ok r ↔
      (∀ call ∈ calls, ∀ e, ¬interpreter.Halts call e) ∧ r = interpreter.outcome calls ∧
        r.applied + r.skipped.length = calls.length) ∧
    ∀ stopped, interpreter.replay calls = .error stopped ↔
      ∃ before call after, calls = before ++ call :: after ∧
        (∀ earlier ∈ before, ∀ e, ¬interpreter.Halts earlier e) ∧
        interpreter.Halts call stopped.cause ∧
        stopped.skipped = before.zipIdx.filterMap interpreter.skip? := by
  have hreturns := exists_replayFrom_iff interpreter calls {}
  simp only [exists_judged_iff] at hreturns
  refine ⟨judge_eq_error_iff interpreter, fun r => ?_, fun stopped => ?_⟩
  · constructor
    · intro h
      have hseen := seen_of_replayFrom h
      exact ⟨hreturns.1 ⟨r, h⟩, replay_eq h, hseen.trans (Nat.zero_add _)⟩
    · rintro ⟨hcalls, rfl, -⟩
      obtain ⟨r, hr⟩ := hreturns.2 hcalls
      exact replay_eq hr ▸ hr
  · constructor
    · intro h
      have hsome : ¬∀ call ∈ calls, ∃ verdict, interpreter.judge call = .ok verdict := by
        rw [← exists_replayFrom_iff interpreter calls {}]
        rintro ⟨r, hr⟩
        cases h.symm.trans hr
      obtain ⟨before, call, after, e, rfl, hbefore, he⟩ := exists_first_unjudged hsome
      cases h.symm.trans (replay_stops hbefore he after)
      exact ⟨before, call, after, rfl,
        fun c hc => (exists_judged_iff interpreter c).1 (hbefore c hc),
        (judge_eq_error_iff interpreter call e).1 he, rfl⟩
    · rintro ⟨before, call, after, rfl, hbefore, he, hskipped⟩
      have hjudged := fun c hc => (exists_judged_iff interpreter c).2 (hbefore c hc)
      have he' := (judge_eq_error_iff interpreter call stopped.cause).2 he
      rw [replay_stops hjudged he' after, ← hskipped]

/-- The least number that has more digits than these. -/
def leastBeyond (digits : Nat) : Nat := Nat.pow 10 digits

/-- The least number that has too many digits. -/
def leastOverlong : Nat := leastBeyond Text.maxDigits

def overlongContent : Json := .obj [("path", .str "/"), ("content", .int leastOverlong)]

/-- A page with a number for its content, in arguments that are a text, and one that is as it
should be. -/
def overlongPage : List ToolCall :=
  [⟨.str "create_page", .str overlongContent.text⟩,
    ⟨.str "create_page", .obj [("path", .str "/ok"), ("content", .str "ok")]⟩]

theorem length_leastOverlong : (Text.decimal leastOverlong).length = 4301 := by
  have hlength (digits : Nat) : (Text.decimal (leastBeyond digits)).length = digits + 1 := by
    rw [leastBeyond, Text.length_decimal_pow]
  exact hlength Text.maxDigits

theorem long?_overlongContent : overlongContent.long? = some 4301 := by
  have hcontent : (Json.int leastOverlong).long? = some 4301 := by
    rw [Json.long?, Int.natAbs_natCast, length_leastOverlong]
    rfl
  rw [overlongContent, Json.long?, Json.fieldsLong?, Json.fieldsLong?, hcontent]
  rfl

/-- The page that could be made is not: the call before it stops the replay. -/
theorem replay_overlongPage : standard.replay overlongPage = .error ⟨.long (.read 4301), []⟩ := by
  have hdistinct : overlongContent.Distinct := by
    rw [overlongContent, Json.Distinct]
    exact ⟨by decide, trivial, trivial, trivial⟩
  have hread : Json.read 1000 overlongContent.text = .error (.halt (.long (.read 4301))) := by
    rw [Json.read_text hdistinct (by decide), Json.readBack, long?_overlongContent]
  have hhalts : standard.Halts ⟨.str "create_page", .str overlongContent.text⟩
      (.long (.read 4301)) :=
    ⟨by decide, .createPage, rfl, .inl ⟨_, rfl, hread⟩⟩
  exact replay_stops (List.forall_mem_nil _) ((judge_eq_error_iff _ _ _).2 hhalts) _

end Interpreter

end Sitewright
