import Sitewright.Proofs.Json.LineEnds
import Sitewright.Proofs.Model.Answer
import Sitewright.Proofs.Tool.Halt
import Sitewright.Proofs.Tool.Work

namespace Sitewright

namespace Json

variable {setting : Setting} {v : Json} {fields : Fields} {text name : String}
  {before after rest : List Char} {room : Nat}

theorem spells_textWith (hset : setting.Sound) (hv : v.Distinct) (hl : v.long? = none)
    (hroom : v.depth ≤ room) (hr : EndsNumber rest) (depth : Nat) :
    Spells room (textWith setting depth v ++ rest) v rest := by
  have hread := readValue_textWith hset v hv _ room depth rest hroom (Nat.lt_succ_self _) hr
  rw [hl] at hread
  exact (spelledIn _).value hread

theorem document_textWith (hset : setting.Sound) (hv : v.Distinct) (hl : v.long? = none)
    (hroom : v.depth ≤ room) (hbefore : ∀ c ∈ before, isBlank c = true)
    (hafter : ∀ c ∈ after, isBlank c = true) :
    Document room (before ++ (textWith setting 0 v ++ after)) v := by
  have hleft : Blanks after [] := List.append_nil after ▸ Blanks.pad hafter (.none [])
  have hends : EndsNumber after := hleft.endsNumber endsNumber_nil
  exact ⟨_, after, Blanks.pad hbefore (.none _), spells_textWith hset hv hl hroom hends 0, hleft⟩

/-- Whether a text is a value on one line, with nothing but blanks around it. -/
def Writes (text : String) (v : Json) : Prop :=
  ∃ before after, (∀ c ∈ before, isBlank c = true) ∧ (∀ c ∈ after, isBlank c = true) ∧
    text.toList = before ++ (v.text.toList ++ after)

theorem writes_text (v : Json) : Writes v.text v :=
  ⟨[], [], nofun, nofun, (List.append_nil _).symm⟩

theorem Writes.read_eq (h : Writes text v) (hv : v.Distinct) (hl : v.long? = none)
    (hroom : v.depth ≤ room) : read room text = .ok v := by
  obtain ⟨before, after, hbefore, hafter, htext⟩ := h
  rw [read_eq_ok_iff, htext, Json.text, String.toList_ofList]
  exact document_textWith sound_oneLine hv hl hroom hbefore hafter

theorem Writes.not_blank (h : Writes text (.obj fields)) :
    ¬text.toList.all Text.isBlank = true := by
  obtain ⟨before, after, -, -, htext⟩ := h
  have hbrace : '{' ∈ (Json.obj fields).text.toList := by
    rw [Json.text, String.toList_ofList]
    cases fields with
    | nil => exact List.mem_cons_self
    | cons field fields =>
      rw [textWith_obj]
      exact List.mem_cons_self
  intro hblank
  have hmem : '{' ∈ text.toList :=
    htext ▸ List.mem_append_right before (List.mem_append_left after hbrace)
  exact absurd (List.all_eq_true.1 hblank _ hmem) (by decide)

theorem not_overlong_field (h : (Json.obj fields).long? = none) (name : String) :
    ¬(field fields name).Overlong := by
  rw [Overlong, short_inherited.field h]
  exact Bool.false_ne_true

end Json

variable {fields : Fields} {text : String} {room : Nat}

/-- An object and a text that it is written in are the same arguments. -/
theorem arguments_of_writes (h : Json.Writes text (.obj fields)) (hd : (Json.obj fields).Distinct)
    (hl : (Json.obj fields).long? = none) (hroom : (Json.obj fields).depth ≤ room) :
    arguments room (.str text) = arguments room (.obj fields) := by
  have htext : argumentsOfText room text = .ok fields := by
    rw [argumentsOfText, if_neg h.not_blank, h.read_eq hd hl hroom]
  exact htext

theorem Tool.not_overlong (tool : Tool) (h : (Json.obj fields).long? = none) :
    ¬tool.Overlong fields := by
  have hfield := Json.not_overlong_field h
  cases tool with
  | createPage => exact id
  | addDynamicContent =>
    rintro ⟨-, -, hkind⟩
    rw [Tool.kindGiven] at hkind
    cases htype : fields.get? "type" with
    | none =>
      rw [htype] at hkind
      exact hfield "kind" hkind
    | some given =>
      have hgiven : Json.field fields "type" = given := by rw [Json.field, htype]; rfl
      rw [htype, Option.getD_some, ← hgiven] at hkind
      exact hfield "type" hkind
  | addAsset =>
    rintro ⟨-, -, halt | hclass | hwidth | hheight⟩
    · exact hfield _ halt
    · exact hfield _ hclass
    · exact hfield _ hwidth
    · exact hfield _ hheight
  | setLayout =>
    rintro (hheader | hfooter)
    · exact hfield _ hheader
    · exact hfield _ hfooter

/-- Whether a call is another one, or that one with its object of arguments written out as a text,
for which there has to be room. -/
inductive ToolCall.Rewritten (room : Nat) : ToolCall → ToolCall → Prop where
  | same (call : ToolCall) : Rewritten room call call
  | text (name : Json) {fields : Fields} {text : String} (hd : (Json.obj fields).Distinct)
    (hl : (Json.obj fields).long? = none) (hroom : (Json.obj fields).depth ≤ room)
    (h : Json.Writes text (.obj fields)) :
    Rewritten room ⟨name, .obj fields⟩ ⟨name, .str text⟩

namespace Interpreter

variable {interpreter : Interpreter} {call call' : ToolCall} {calls calls' : List ToolCall}

theorem judge_rewritten (h : ToolCall.Rewritten interpreter.nesting call call') :
    interpreter.judge call' = interpreter.judge call := by
  cases h with
  | same => rfl
  | text name hd hl hroom h =>
    simp only [judge, arguments_of_writes h hd hl hroom]
    rfl

theorem step_rewritten {room : Nat} (h : ToolCall.Rewritten room call call') (r : Replay)
    (verdict : Verdict) : r.step call' verdict = r.step call verdict := by
  cases h with
  | same => rfl
  | text => cases verdict <;> rfl

theorem replayFrom_rewritten
    (h : List.Forall₂ (ToolCall.Rewritten interpreter.nesting) calls calls') (r : Replay) :
    interpreter.replayFrom r calls' = interpreter.replayFrom r calls := by
  induction h generalizing r with
  | nil => rfl
  | cons hcall _ ih => simp only [replayFrom, judge_rewritten hcall, step_rewritten hcall, ih]

theorem run_perform_rewritten (h : ToolCall.Rewritten interpreter.nesting call call')
    (site : Site) :
    (interpreter.perform call').run site = (interpreter.perform call).run site := by
  rw [run_perform, run_perform, judge_rewritten h]

/-- No integer is long enough to stop a call whose arguments are an object without such a one. -/
theorem exists_perform (interpreter : Interpreter) (name : Json)
    (hl : (Json.obj fields).long? = none) (site : Site) :
    ∃ refusal? after, (interpreter.perform ⟨name, .obj fields⟩).run site = .ok refusal? after := by
  obtain ⟨verdict, hverdict⟩ := (exists_judged_iff interpreter ⟨name, .obj fields⟩).2 <| by
    rintro e ⟨-, tool, -, ⟨text, hobj, -⟩ | ⟨args, hargs, -, hlong⟩⟩
    · cases hobj
    · cases hargs
      exact tool.not_overlong hl hlong
  rw [run_perform, hverdict]
  cases verdict with
  | accepted edit => exact ⟨none, _, rfl⟩
  | refused reason => exact ⟨some reason, site, rfl⟩

/-- Arguments may be an object or the text of one. A call with either is carried out or refused
alike, for the same reason and with the same site after it; and calls some of whose objects are
written out, with any blanks around them, are replayed as they were before. -/
theorem written_arguments_mean_the_object (interpreter : Interpreter) :
    (∀ name fields site, (Json.obj fields).Distinct → (Json.obj fields).long? = none →
      (Json.obj fields).depth ≤ interpreter.nesting → ∃ refusal? after,
        (interpreter.perform ⟨name, .obj fields⟩).run site = .ok refusal? after ∧
        (interpreter.perform ⟨name, .str (Json.obj fields).text⟩).run site = .ok refusal? after) ∧
    ∀ calls calls', List.Forall₂ (ToolCall.Rewritten interpreter.nesting) calls calls' →
      interpreter.replay calls' = interpreter.replay calls := by
  constructor
  · intro name fields site hd hl hroom
    obtain ⟨refusal?, after, hrun⟩ := exists_perform interpreter name hl site
    have hwritten : ToolCall.Rewritten interpreter.nesting ⟨name, .obj fields⟩
        ⟨name, .str (Json.obj fields).text⟩ := .text name hd hl hroom (Json.writes_text _)
    exact ⟨refusal?, after, hrun, (run_perform_rewritten hwritten site).trans hrun⟩
  · intro calls calls' h
    exact replayFrom_rewritten h {}

/-- A page whose text has quotes, an escape and characters beyond ASCII. -/
def greeting : Fields :=
  [("path", .str "/"), ("content", .str "Grüße, \"𝄞\"\n"),
    ("extra", .obj [("list", .arr [.int (-3), .null, .str "é"])])]

/-- The page, and a page that is refused, with the arguments of one of them written out. -/
theorem written_arguments_mean_the_object_greeting :
    let refused : ToolCall := ⟨.str "create_page", .obj [("path", .str "about")]⟩
    let text := String.ofList ("\n\t".toList ++ ((Json.obj greeting).text.toList ++ [' ', '\r']))
    standard.replay [⟨.str "create_page", .str text⟩, refused] =
      .ok
        { site := { pages := [("/", ⟨"Grüße, \"𝄞\"\n", []⟩)] }
          applied := 1
          skipped := [⟨1, "create_page",
            "create_page: \"path\" must be a string that starts with \"/\""⟩] } := by
  have hdistinct : (Json.obj greeting).Distinct := by
    refine ⟨?_, ?_⟩
    · decide
    · exact ⟨trivial, trivial, ⟨by decide, ⟨trivial, trivial, trivial, trivial⟩, trivial⟩, trivial⟩
  have hwrites : Json.Writes
      (String.ofList ("\n\t".toList ++ ((Json.obj greeting).text.toList ++ [' ', '\r'])))
      (.obj greeting) :=
    ⟨_, _, List.all_eq_true.1 rfl, List.all_eq_true.1 rfl, String.toList_ofList⟩
  intro refused text
  have hroom : (Json.obj greeting).depth ≤ standard.nesting := by decide
  have hcalls : List.Forall₂ (ToolCall.Rewritten standard.nesting)
      [⟨.str "create_page", .obj greeting⟩, refused] [⟨.str "create_page", .str text⟩, refused] :=
    .cons (.text _ hdistinct rfl hroom hwrites) (.cons (.same _) .nil)
  rw [(written_arguments_mean_the_object standard).2 _ _ hcalls]
  rfl

end Interpreter

end Sitewright
