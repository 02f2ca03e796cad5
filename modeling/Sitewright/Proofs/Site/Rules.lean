import Mathlib.Data.List.Infix
import Sitewright.Proofs.Text.Replace
import Sitewright.Site.Route

namespace Sitewright

namespace Moment

/-- Whether a character can be part of a time that a page shows. -/
def isShown (c : Char) : Bool := c.isDigit || c == '-' || c == ':' || c == ' '

theorem all_isShown_decimal (n : Nat) : (Text.decimal n).all isShown = true :=
  List.all_eq_true.2 fun c hc => by
    simp only [isShown, Text.isDigit_of_mem_decimal hc, Bool.true_or]

theorem all_isShown_decimalPadded (width n : Nat) :
    (Text.decimalPadded width n).all isShown = true :=
  List.all_eq_true.2 fun c hc => by
    simp only [isShown, Text.isDigit_of_mem_decimalPadded hc, Bool.true_or]

theorem all_isShown_shown (t : Moment) : t.shown.all isShown = true := by
  simp only [shown, timeOfDay, List.all_append, List.all_cons, all_isShown_decimal,
    all_isShown_decimalPadded]
  rfl

/-- A time that has each digit. -/
def pandigital : Moment := ⟨1987, 6, 25, 13, 40, 0, 0⟩

/-- These are the characters that times have, and all of them do come up. -/
theorem isShown_iff (c : Char) : isShown c = true ↔ ∃ t : Moment, c ∈ t.shown := by
  constructor
  · intro h
    have hdigits : ∀ n < 58, 48 ≤ n → Char.ofNat n ∈ pandigital.shown := by decide
    simp only [isShown, Bool.or_eq_true, beq_iff_eq] at h
    refine ⟨pandigital, ?_⟩
    obtain ((h | rfl) | rfl) | rfl := h
    · obtain ⟨hlow, hhigh⟩ := Char.isDigit_iff_toNat.1 h
      have hmem := hdigits c.toNat (Nat.lt_succ_of_le hhigh) hlow
      rwa [Char.ofNat_toNat] at hmem
    · decide
    · decide
    · decide
  · rintro ⟨t, ht⟩
    exact List.all_eq_true.1 t.all_isShown_shown c ht

theorem shown_ne_nil (t : Moment) : t.shown ≠ [] :=
  List.append_ne_nil_of_right_ne_nil _ (List.cons_ne_nil _ _)

end Moment

namespace Dynamic

variable {kind : Dynamic} {now : Moment} {c : Char}

theorem value_ne_nil (kind : Dynamic) (now : Moment) : kind.value now ≠ [] := by
  cases kind with
  | currentTime => exact now.shown_ne_nil

theorem isShown_of_mem_value (h : c ∈ kind.value now) : Moment.isShown c = true := by
  cases kind with
  | currentTime => exact (Moment.isShown_iff c).2 ⟨now, h⟩

end Dynamic

namespace Rule

variable {rule other : Rule} {now : Moment} {s : List Char}

/-- Whether a placeholder is not empty and has no character of a time. -/
structure Timeless (rule : Rule) : Prop where
  named : rule.placeholder ≠ ""
  timeless : ∀ c ∈ rule.placeholder.toList, Moment.isShown c = false

theorem timeless_iff :
    rule.Timeless ↔
      rule.placeholder ≠ "" ∧ rule.placeholder.toList.any Moment.isShown = false := by
  simp only [List.any_eq_false, Bool.not_eq_true]
  constructor
  · rintro ⟨hnamed, htimeless⟩
    exact ⟨hnamed, htimeless⟩
  · rintro ⟨hnamed, htimeless⟩
    exact ⟨hnamed, htimeless⟩

instance : Decidable rule.Timeless := decidable_of_iff _ timeless_iff.symm

theorem Timeless.ne_nil (h : rule.Timeless) : rule.placeholder.toList ≠ [] :=
  fun hnil => h.named (String.toList_eq_nil_iff.1 hnil)

theorem Timeless.disjoint_value (h : rule.Timeless) (kind : Dynamic) (now : Moment) :
    rule.placeholder.toList.Disjoint (kind.value now) := by
  intro c hc hv
  have hshown := Dynamic.isShown_of_mem_value hv
  rw [h.timeless c hc] at hshown
  cases hshown

theorem Timeless.not_infix_apply (h : rule.Timeless) (now : Moment) (s : List Char) :
    ¬rule.placeholder.toList <:+: rule.apply now s :=
  Text.not_infix_replaceAll h.ne_nil (Dynamic.value_ne_nil _ _) (h.disjoint_value _ _) s

/-- A rule makes no placeholder, neither its own nor another's. -/
theorem Timeless.infix_of_infix_apply (h : rule.Timeless) (hother : other.Timeless)
    (hs : other.placeholder.toList <:+: rule.apply now s) : other.placeholder.toList <:+: s :=
  Text.infix_of_infix_replaceAll h.ne_nil (Dynamic.value_ne_nil _ _) (hother.disjoint_value _ _) hs

theorem Timeless.apply_eq_self (h : rule.Timeless) (hs : ¬rule.placeholder.toList <:+: s)
    (now : Moment) : rule.apply now s = s :=
  Text.replaceAll_eq_self h.ne_nil hs _

/-- Whether the placeholders of two rules are the same or cannot meet. -/
def Independent (rule other : Rule) : Prop :=
  rule.placeholder ≠ other.placeholder →
    Text.Apart rule.placeholder.toList other.placeholder.toList

instance : Decidable (rule.Independent other) :=
  inferInstanceAs (Decidable (rule.placeholder ≠ other.placeholder →
    Text.Apart rule.placeholder.toList other.placeholder.toList))

theorem Independent.apply_comm (h : rule.Independent other) (hrule : rule.Timeless)
    (hother : other.Timeless) (now : Moment) (s : List Char) :
    other.apply now (rule.apply now s) = rule.apply now (other.apply now s) := by
  by_cases heq : rule.placeholder = other.placeholder
  · have hkind : rule.kind.value now = other.kind.value now := by
      cases rule.kind
      cases other.kind
      rfl
    simp only [apply, heq, hkind]
  · have hvalue := Dynamic.value_ne_nil rule.kind now
    have hvalue' := Dynamic.value_ne_nil other.kind now
    exact (Text.replaceAll_comm hrule.ne_nil hother.ne_nil hvalue hvalue'
      (hrule.disjoint_value _ _) (hother.disjoint_value _ _) (h heq) s).symm

end Rule

variable {rules rules' : List Rule} {rule : Rule} {now : Moment} {s : List Char}

theorem infix_of_infix_foldl (hrules : ∀ rule ∈ rules, rule.Timeless) (hrule : rule.Timeless)
    (hs : rule.placeholder.toList <:+: rules.foldl (Rule.apply now) s) :
    rule.placeholder.toList <:+: s := by
  induction rules generalizing s with
  | nil => exact hs
  | cons first rules ih =>
    obtain ⟨hfirst, hrest⟩ := List.forall_mem_cons.1 hrules
    exact hfirst.infix_of_infix_apply hrule (ih hrest hs)

/-- A rule clears its placeholder, and the rules after it do not bring it back. -/
theorem not_infix_foldl (hrules : ∀ rule ∈ rules, rule.Timeless) (hrule : rule ∈ rules) :
    ¬rule.placeholder.toList <:+: rules.foldl (Rule.apply now) s := by
  induction rules generalizing s with
  | nil => cases hrule
  | cons first rules ih =>
    obtain ⟨hfirst, hrest⟩ := List.forall_mem_cons.1 hrules
    obtain rfl | hrule := List.mem_cons.1 hrule
    · intro hs
      exact hfirst.not_infix_apply now s (infix_of_infix_foldl hrest hfirst hs)
    · exact ih hrest hrule

theorem foldl_apply_eq_self (hrules : ∀ rule ∈ rules, rule.Timeless)
    (hs : ∀ rule ∈ rules, ¬rule.placeholder.toList <:+: s) (now : Moment) :
    rules.foldl (Rule.apply now) s = s := by
  induction rules with
  | nil => rfl
  | cons first rules ih =>
    obtain ⟨hfirst, hrest⟩ := List.forall_mem_cons.1 hrules
    obtain ⟨hfree, hclear⟩ := List.forall_mem_cons.1 hs
    rw [List.foldl_cons, hfirst.apply_eq_self hfree]
    exact ih hrest hclear

/-- The order of rules does not matter if no two of their placeholders can meet, however often a
rule comes up and whatever the page holds. -/
theorem applyRules_perm (hrules : ∀ rule ∈ rules, rule.Timeless)
    (hindependent : ∀ rule ∈ rules, ∀ other ∈ rules, rule.Independent other)
    (hperm : rules.Perm rules') (now : Moment) (content : String) :
    applyRules rules now content = applyRules rules' now content := by
  have hcomm : ∀ rule ∈ rules, ∀ other ∈ rules, ∀ s : List Char,
      other.apply now (rule.apply now s) = rule.apply now (other.apply now s) := by
    intro rule hrule other hother s
    exact (hindependent rule hrule other hother).apply_comm (hrules rule hrule)
      (hrules other hother) now s
  rw [applyRules, applyRules, hperm.foldl_eq' hcomm]

/-- A placeholder that can meet itself, twice, and one that it cannot meet. -/
def doubledRules : List Rule :=
  [⟨"aa", .currentTime⟩, ⟨"aa", .currentTime⟩, ⟨"<t>", .currentTime⟩]

theorem applyRules_perm_doubled :
    applyRules doubledRules Moment.pandigital "aaa<t>" =
        applyRules doubledRules.reverse Moment.pandigital "aaa<t>" ∧
      applyRules doubledRules Moment.pandigital "aaa<t>" =
        "1987-06-25 13:40:00a1987-06-25 13:40:00" := by
  have htimeless : ∀ rule ∈ doubledRules, rule.Timeless := by decide
  have hindependent : ∀ rule ∈ doubledRules, ∀ other ∈ doubledRules, rule.Independent other := by
    decide
  exact ⟨applyRules_perm htimeless hindependent (List.reverse_perm _).symm _ _, by decide⟩

-- Where placeholders meet, the rule that comes first takes what they share.
example : applyRules [⟨"ab", .currentTime⟩, ⟨"bc", .currentTime⟩] Moment.pandigital "abc" ≠
    applyRules [⟨"bc", .currentTime⟩, ⟨"ab", .currentTime⟩] Moment.pandigital "abc" := by decide

/-- A page shows none of the placeholders of its rules, also where several of them overlap in it.
So the same rules change nothing when they are applied to it again, at whatever time. -/
theorem applyRules_clears (hrules : ∀ rule ∈ rules, rule.Timeless) (now : Moment)
    (content : String) :
    (∀ rule ∈ rules, ¬rule.placeholder.toList <:+: (applyRules rules now content).toList) ∧
      ∀ later, applyRules rules later (applyRules rules now content) =
        applyRules rules now content := by
  have hclear : ∀ rule ∈ rules,
      ¬rule.placeholder.toList <:+: (applyRules rules now content).toList := by
    intro rule hrule
    rw [applyRules, String.toList_ofList]
    exact not_infix_foldl hrules hrule
  refine ⟨hclear, ?_⟩
  intro later
  rw [applyRules, foldl_apply_eq_self hrules hclear, String.ofList_toList]

/-- Two placeholders that meet. -/
def meetingRules : List Rule := [⟨"ab", .currentTime⟩, ⟨"bc", .currentTime⟩]

theorem applyRules_clears_meeting :
    let page := "1987-06-25 13:40:00c1987-06-25 13:40:00"
    applyRules meetingRules Moment.pandigital "abcbc" = page ∧
      (∀ rule ∈ meetingRules, ¬rule.placeholder.toList <:+: page.toList) ∧
      ∀ later, applyRules meetingRules later page = page := by
  have htimeless : ∀ rule ∈ meetingRules, rule.Timeless := by decide
  have hpage : applyRules meetingRules Moment.pandigital "abcbc" =
      "1987-06-25 13:40:00c1987-06-25 13:40:00" := by decide
  have hclear := applyRules_clears htimeless Moment.pandigital "abcbc"
  rw [hpage] at hclear
  exact ⟨hpage, hclear⟩

end Sitewright
