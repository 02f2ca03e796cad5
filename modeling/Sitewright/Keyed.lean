namespace Sitewright

/-- Values under keys, in the order in which the keys came. -/
abbrev Keyed (κ α : Type) := List (κ × α)

abbrev Named (α : Type) := Keyed String α

namespace Keyed

variable {κ α : Type}

def keys (m : Keyed κ α) : List κ := m.map (·.1)

variable [DecidableEq κ]

def get? : Keyed κ α → κ → Option α
  | [], _ => none
  | entry :: rest, key => if entry.1 = key then some entry.2 else get? rest key

/-- Gives a key the value that `f` makes of the one it has: a key that is there keeps its place, a
new one comes last. -/
def alter (key : κ) (f : Option α → α) : Keyed κ α → Keyed κ α
  | [] => [(key, f none)]
  | entry :: rest =>
    if entry.1 = key then (key, f (some entry.2)) :: rest else entry :: alter key f rest

def put (key : κ) (value : α) (m : Keyed κ α) : Keyed κ α := m.alter key fun _ => value

def erase (key : κ) (m : Keyed κ α) : Keyed κ α := m.filter (·.1 ≠ key)

def ofList (entries : List (κ × α)) : Keyed κ α :=
  entries.foldl (fun m entry => put entry.1 entry.2 m) []

@[simp] theorem get?_alter (m : Keyed κ α) (key other : κ) (f : Option α → α) :
    (m.alter key f).get? other = if other = key then some (f (m.get? key)) else m.get? other := by
  induction m with
  | nil => simp only [alter, get?, eq_comm (a := other)]
  | cons entry rest ih =>
    by_cases he : entry.1 = key
    · simp only [alter, he, if_true, get?, eq_comm (a := other)]
      split <;> rfl
    · by_cases h : other = key
      · subst h
        simpa [alter, get?, he] using ih
      · simp only [alter, he, if_false, get?, ih, h]

@[simp] theorem get?_put (m : Keyed κ α) (key other : κ) (value : α) :
    (m.put key value).get? other = if other = key then some value else m.get? other :=
  get?_alter m key other _

@[simp] theorem isSome_get?_iff (m : Keyed κ α) (key : κ) : (m.get? key).isSome ↔ key ∈ m.keys := by
  induction m with
  | nil => simp [get?, keys]
  | cons entry rest ih =>
    have hm : key ∈ keys (entry :: rest) ↔ key = entry.1 ∨ key ∈ keys rest := List.mem_cons
    by_cases h : entry.1 = key
    · simp [get?, hm, h]
    · rw [hm, or_iff_right fun e => h e.symm, ← ih, get?, if_neg h]

theorem keys_alter (m : Keyed κ α) (key : κ) (f : Option α → α) :
    (m.alter key f).keys = if key ∈ m.keys then m.keys else m.keys ++ [key] := by
  induction m with
  | nil => simp [alter, keys]
  | cons entry rest ih =>
    by_cases h : entry.1 = key
    · simp [alter, keys, h]
    · have h' : key ≠ entry.1 := fun e => h e.symm
      simp only [keys] at ih
      simp only [alter, h, if_false, keys, List.map_cons, List.mem_cons, h', false_or, ih]
      split <;> simp_all

theorem nodup_keys_alter {m : Keyed κ α} (h : m.keys.Nodup) (key : κ) (f : Option α → α) :
    (m.alter key f).keys.Nodup := by
  rw [keys_alter]
  split
  · exact h
  · next hn =>
    refine List.nodup_append.2 ⟨h, by simp, fun a ha b hb e => hn ?_⟩
    rw [List.mem_singleton] at hb
    exact hb ▸ e ▸ ha

omit [DecidableEq κ] in
theorem nodup_keys_filter {m : Keyed κ α} (h : m.keys.Nodup) (p : κ × α → Bool) :
    (keys (m.filter p)).Nodup :=
  List.Nodup.sublist (List.filter_sublist.map _) h

end Keyed

end Sitewright
