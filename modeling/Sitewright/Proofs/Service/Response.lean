import Sitewright.Proofs.Text.Codec
import Sitewright.Service.Server

namespace Sitewright

variable {v : Json} {s : String} {title : String} {texts : List (String × Json)} {status : Nat}

/-- Whether a value can be told: it is a text, and there are bytes for all of it. -/
def Json.Tellable (v : Json) : Prop := ∃ s, v = .str s ∧ Text.Codec.utf8.Writes s.toList

@[simp] theorem Json.tellable_str : (Json.str s).Tellable ↔ Text.Codec.utf8.Writes s.toList := by
  constructor
  · rintro ⟨_, heq, h⟩
    cases heq
    exact h
  · intro h
    exact ⟨s, rfl, h⟩

theorem Text.any_isLone_eq_false_iff {s : List Char} :
    s.any Utf16.isLone = false ↔ Codec.utf8.Writes s := by
  rw [List.any_eq_false, Codec.Writes]
  simp only [Codec.covers, Bool.not_eq_true, Bool.not_eq_true']

namespace Validation

theorem fault?_eq_none_iff : fault? v = none ↔ v.Tellable := by
  cases v with
  | str s =>
    rw [fault?, Json.tellable_str, ← Text.any_isLone_eq_false_iff]
    cases s.toList.any Text.Utf16.isLone with
    | true => exact iff_of_false nofun nofun
    | false => exact iff_of_true rfl rfl
  | _ => exact iff_of_false nofun nofun

theorem untellable_eq_nil_iff : untellable texts = [] ↔ ∀ entry ∈ texts, entry.2.Tellable := by
  rw [untellable, List.filterMap_eq_nil_iff]
  simp only [Option.map_eq_none_iff, fault?_eq_none_iff]

@[simp] theorem check_eq_ok_iff :
    check title texts = .ok () ↔ ∀ entry ∈ texts, entry.2.Tellable := by
  rw [← untellable_eq_nil_iff, check]
  cases untellable texts with
  | nil => exact iff_of_true rfl rfl
  | cons first others => exact iff_of_false nofun nofun

/-- What cannot be told is named in the error, and nothing else is. -/
theorem check_eq_error_iff {e : ValidationError} :
    check title texts = .error e ↔ e.title = title ∧ untellable texts = e.first :: e.others := by
  rw [check]
  cases untellable texts with
  | nil => exact iff_of_false nofun fun h => nomatch h.2
  | cons first others =>
    constructor
    · intro h
      cases h
      exact ⟨rfl, rfl⟩
    · rintro ⟨rfl, h⟩
      cases h
      rfl

theorem check_cases (title : String) (texts : List (String × Json)) :
    (∀ entry ∈ texts, entry.2.Tellable) ∧ check title texts = .ok () ∨
      (¬∀ entry ∈ texts, entry.2.Tellable) ∧ ∃ e, check title texts = .error e := by
  rw [← check_eq_ok_iff]
  cases h : check title texts with
  | ok => exact .inl ⟨rfl, rfl⟩
  | error e => exact .inr ⟨nofun, e, rfl⟩

theorem forall_mem_numbered {name : String} {told : List String} :
    (∀ entry ∈ numbered name told, entry.2.Tellable) ↔
      ∀ s ∈ told, Text.Codec.utf8.Writes s.toList := by
  rw [numbered, List.forall_mem_map]
  constructor
  · intro h s hs
    obtain ⟨i, hi, rfl⟩ := List.getElem_of_mem hs
    exact Json.tellable_str.1 (h (told[i], i) (List.mk_mem_zipIdx_iff_getElem?.2
      (List.getElem?_eq_getElem hi)))
  · intro h entry hentry
    exact Json.tellable_str.2 (h _ (List.fst_mem_of_mem_zipIdx hentry))

end Validation

namespace Response

variable {text : String} {response : Except RequestError Response}

/-- Whether a request is answered with a page. It breaks off where there are no bytes for the
text. -/
inductive Shows (status : Nat) (text : String) : Except RequestError Response → Prop
  | page (h : Text.Codec.utf8.Writes text.toList) : Shows status text (.ok ⟨status, .html text⟩)
  | broken {e : Text.Unencodable} (h : Text.Codec.utf8.unencodable? text.toList = some e) :
      Shows status text (.error (.unencodable e))

theorem shows_html (status : Nat) (text : String) : Shows status text (html status text) := by
  rw [html]
  cases h : Text.Codec.utf8.unencodable? text.toList with
  | none => exact .page (Text.Codec.unencodable?_eq_none_iff.1 h)
  | some e => exact .broken h

theorem Shows.eq_page (h : Shows status text response) (hw : Text.Codec.utf8.Writes text.toList) :
    response = .ok ⟨status, .html text⟩ := by
  cases h with
  | page => rfl
  | broken hnone =>
    rw [Text.Codec.unencodable?_eq_none_iff.2 hw] at hnone
    cases hnone

end Response

end Sitewright
