import Sitewright.Proofs.Except
import Sitewright.Proofs.Service.Response

namespace Sitewright

variable {result : BuildResult} {service : Service}

/-- Whether a text is whole: it has no surrogate that stands alone, for which there are no bytes. -/
abbrev Text.Whole (s : String) : Prop := Codec.utf8.Writes s.toList

/-- Whether all that is told of a build is whole. A model that counts as none is not told. -/
structure BuildResult.Tellable (result : BuildResult) : Prop where
  skipped : ∀ s ∈ result.skipped, Text.Whole s.name ∧ Text.Whole s.reason
  routes : ∀ path ∈ result.routes.paths, Text.Whole path
  model : result.plan.model.truthy = true → result.plan.model.Tellable
  createdAt : Text.Whole result.plan.createdAt

/-- Whether all that a service tells of its builds is whole. -/
structure Service.Tellable (service : Service) : Prop where
  result : ∀ result, service.lastResult = some result → result.Tellable
  error : ∀ said, service.lastError = some said → Text.Whole said

theorem Skipped.check_eq_ok_iff {s : Skipped} :
    s.check = .ok () ↔ Text.Whole s.name ∧ Text.Whole s.reason := by
  rw [check, Validation.check_eq_ok_iff, List.forall_mem_cons, List.forall_mem_singleton,
    Json.tellable_str, Json.tellable_str]

theorem forM_check_eq_ok_iff {skipped : List Skipped} :
    skipped.forM Skipped.check = .ok () ↔
      ∀ s ∈ skipped, Text.Whole s.name ∧ Text.Whole s.reason := by
  induction skipped with
  | nil => exact iff_of_true rfl nofun
  | cons s skipped ih =>
    rw [List.forM, List.forall_mem_cons, ← Skipped.check_eq_ok_iff, ← ih]
    cases s.check with
    | ok => exact (and_iff_right rfl).symm
    | error e => exact iff_of_false nofun fun h => nomatch h.1

namespace Service

theorem forall_mem_error {said? : Option String} :
    (∀ entry ∈ said?.toList.map fun said => ("error", Json.str said), entry.2.Tellable) ↔
      ∀ said, said? = some said → Text.Whole said := by
  cases said? with
  | none => exact iff_of_true nofun nofun
  | some said =>
    simp only [Option.toList_some, List.map_cons, List.map_nil, List.mem_singleton, forall_eq,
      Json.tellable_str, Option.some.injEq, forall_eq']

theorem forall_mem_texts :
    (∀ entry ∈ service.texts result, entry.2.Tellable) ↔
      (∀ path ∈ result.routes.paths, Text.Whole path) ∧
        (result.plan.model.truthy = true → result.plan.model.Tellable) ∧
          Text.Whole result.plan.createdAt ∧
            ∀ said, service.lastError = some said → Text.Whole said := by
  have hempty : Text.Whole "" := fun c hc => nomatch hc
  rw [texts, List.forall_mem_append, List.forall_mem_append, List.forall_mem_append,
    Validation.forall_mem_numbered, forall_mem_error, and_assoc, and_assoc]
  refine and_congr_right fun _ => and_congr ?_ (and_congr_left fun _ => ?_)
  · cases result.plan.model.truthy with
    | false => exact iff_of_true nofun nofun
    | true => simp only [if_true, List.forall_mem_singleton, forall_const]
  · by_cases hnone : result.plan.createdAt = ""
    · rw [if_pos hnone, hnone]
      exact iff_of_true nofun hempty
    · rw [if_neg hnone, List.forall_mem_singleton, Json.tellable_str]

/-- A service can tell of its builds just if all that it tells is whole. -/
theorem exists_info_iff : (∃ told, service.info = .ok told) ↔ service.Tellable := by
  rw [info]
  cases hr : service.lastResult with
  | none =>
    dsimp only
    rw [exists_bind_eq_ok_iff, Validation.check_eq_ok_iff, forall_mem_error]
    constructor
    · rintro ⟨herror, -⟩
      exact ⟨(fun _ h => nomatch hr.symm.trans h), herror⟩
    · intro h
      exact ⟨h.error, _, rfl⟩
  | some result =>
    dsimp only
    rw [exists_bind_eq_ok_iff, exists_bind_eq_ok_iff, forM_check_eq_ok_iff,
      Validation.check_eq_ok_iff, forall_mem_texts]
    constructor
    · rintro ⟨hskipped, ⟨hroutes, hmodel, hcreated, herror⟩, -⟩
      refine ⟨?_, herror⟩
      intro other hother
      obtain rfl := Option.some.inj (hr.symm.trans hother)
      exact ⟨hskipped, hroutes, hmodel, hcreated⟩
    · intro h
      obtain ⟨hskipped, hroutes, hmodel, hcreated⟩ := h.result result hr
      exact ⟨hskipped, ⟨hroutes, hmodel, hcreated, h.error⟩, _, rfl⟩

/-- What a request for the state of a service comes to. -/
theorem infoResponse_cases (service : Service) :
    service.Tellable ∧ (∃ told, service.info = .ok told ∧
        service.infoResponse = .ok ⟨200, .json told.toJson⟩) ∨
      ¬service.Tellable ∧ ∃ e, service.info = .error e ∧
        service.infoResponse = .error (.untold e) := by
  rw [← exists_info_iff, infoResponse]
  cases service.info with
  | ok told => exact .inl ⟨⟨told, rfl⟩, told, rfl, rfl⟩
  | error e => exact .inr ⟨nofun, e, rfl, rfl⟩

end Service

end Sitewright
