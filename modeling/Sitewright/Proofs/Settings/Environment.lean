import Sitewright.Platform
import Sitewright.Proofs.Except
import Sitewright.Proofs.Keyed

namespace Sitewright

namespace Reference

/-- The references in a text; the first `covered` characters belong to one that is done. -/
def foundFrom (covered : Nat) : List Char → List Reference
  | [] => []
  | c :: rest =>
    match covered with
    | k + 1 => foundFrom k rest
    | 0 =>
      match read? (c :: rest) with
      | some ref => ref :: foundFrom (ref.width - 1) rest
      | none => foundFrom 0 rest

def found (s : String) : List Reference := foundFrom 0 s.toList

variable {value other : Reference → String}

theorem expandFrom_congr {covered : Nat} {s : List Char}
    (h : ∀ ref ∈ foundFrom covered s, other ref = value ref) :
    expandFrom other covered s = expandFrom value covered s := by
  induction s generalizing covered with
  | nil => rfl
  | cons c rest ih =>
    cases covered with
    | succ k => exact ih h
    | zero =>
      rw [foundFrom] at h
      rw [expandFrom, expandFrom]
      cases hread : read? (c :: rest) with
      | none =>
        rw [hread] at h
        exact congrArg _ (ih h)
      | some ref =>
        rw [hread] at h
        obtain ⟨href, hrest⟩ := List.forall_mem_cons.1 h
        dsimp only
        rw [href, ih hrest]

theorem expand_congr {s : String} (h : ∀ ref ∈ found s, other ref = value ref) :
    expand other s = expand value s := by
  rw [expand, expand, expandFrom_congr h]

end Reference

/-- Whether the value of a line refers to a variable. -/
def Binding.RefersTo (b : Binding) (name : String) : Prop :=
  ∃ value, b.value = some value ∧ ∃ ref ∈ Reference.found value, ref.name = name

namespace Environment

variable {env other new : Environment} {bindings : List Binding} {name : String}

/-- Sets a variable of a file, if it has a value there and is not set already. -/
def adopt (env new : Environment) (entry : String × Option String) : Environment :=
  match entry.2 with
  | some v => if (env.get? entry.1).isSome then new else new.put entry.1 v
  | none => new

/-- A variable of a file is set only if there can be one such. -/
def takeUp (env new : Environment) (entry : String × Option String) : Except String Environment :=
  match entry.2 with
  | some value => if (env.get? entry.1).isSome then .ok new else new.set entry.1 value
  | none => .ok new

theorem dotenv_eq (env : Environment) (text : String) :
    env.dotenv text = (env.resolve (Binding.readAll text)).foldlM env.takeUp env := rfl

theorem eq_put_of_set {value : String} (h : env.set name value = .ok new) :
    new = env.put name value := by
  rw [set] at h
  split at h
  · cases h
  · split at h
    · cases h
    · cases h
      rfl

theorem eq_adopt_of_takeUp {entry : String × Option String} {after : Environment}
    (h : env.takeUp new entry = .ok after) : after = env.adopt new entry := by
  rw [takeUp] at h
  rw [adopt]
  split at h
  · split at h
    · next hset =>
      cases h
      rw [if_pos hset]
    · next hunset =>
      rw [if_neg hunset]
      exact eq_put_of_set h
  · cases h
    rfl

theorem eq_foldl_of_foldlM_takeUp {entries : Named (Option String)} {after : Environment}
    (h : List.foldlM env.takeUp new entries = .ok after) : after = entries.foldl env.adopt new := by
  induction entries generalizing new with
  | nil =>
    cases h
    rfl
  | cons entry entries ih =>
    rw [List.foldlM_cons] at h
    obtain ⟨next, hnext, hrest⟩ := exists_of_bind h
    rw [List.foldl_cons, ← eq_adopt_of_takeUp hnext]
    exact ih hrest

theorem get?_adopt (env new : Environment) (entry : String × Option String) (name : String) :
    (env.adopt new entry).get? name =
      if name = entry.1 ∧ env.get? name = none then entry.2.or (new.get? name)
      else new.get? name := by
  obtain ⟨key, value⟩ := entry
  cases value with
  | none => rw [adopt, Option.none_or, ite_self]
  | some v =>
    rw [adopt]
    dsimp only
    by_cases hset : env.get? key = none
    · rw [hset, Option.isSome_none, if_neg Bool.false_ne_true, Keyed.get?_put]
      by_cases hname : name = key
      · subst hname
        rw [if_pos rfl, if_pos ⟨rfl, hset⟩, Option.some_or]
      · rw [if_neg hname, if_neg fun h => hname h.1]
    · rw [if_pos (Option.isSome_iff_ne_none.2 hset), if_neg]
      rintro ⟨rfl, hnone⟩
      exact hset hnone

/-- Puts down what a line gives its variable. -/
def note (env : Environment) (above : Named (Option String)) (b : Binding) :
    Named (Option String) :=
  above.put b.name (b.value.map (Reference.expand (env.value above)))

theorem resolve_eq (env : Environment) (bindings : List Binding) :
    env.resolve bindings = bindings.foldl env.note [] := rfl

theorem nodup_keys_foldl_note {above : Named (Option String)} (h : above.keys.Nodup)
    (env : Environment) (bindings : List Binding) :
    (Keyed.keys (bindings.foldl env.note above)).Nodup := by
  induction bindings generalizing above with
  | nil => exact h
  | cons b bindings ih => exact ih (Keyed.nodup_keys_alter h _ _)

theorem get?_foldl_adopt {entries : Named (Option String)} (hd : entries.keys.Nodup)
    (env new : Environment) (name : String) :
    Keyed.get? (entries.foldl env.adopt new) name =
      if env.get? name = none then (entries.get? name).join.or (new.get? name)
      else new.get? name := by
  induction entries generalizing new with
  | nil => exact (ite_self _).symm
  | cons entry entries ih =>
    obtain ⟨hkey, hrest⟩ := List.nodup_cons.1 hd
    rw [List.foldl_cons, ih hrest, get?_adopt, Keyed.get?]
    by_cases hset : env.get? name = none
    · rw [if_pos hset, if_pos hset]
      by_cases hname : entry.1 = name
      · subst hname
        have hlater : Keyed.get? entries entry.1 = none := Keyed.get?_eq_none_iff.2 hkey
        rw [if_pos ⟨rfl, hset⟩, if_pos rfl, hlater]
        rfl
      · rw [if_neg fun h => hname h.1.symm, if_neg hname]
    · rw [if_neg hset, if_neg hset, if_neg fun h => hset h.2]

theorem nodup_keys_resolve (env : Environment) (bindings : List Binding) :
    (env.resolve bindings).keys.Nodup := by
  have hempty : (Keyed.keys ([] : Named (Option String))).Nodup := List.nodup_nil
  exact nodup_keys_foldl_note hempty env bindings

/-- A variable that is set keeps its value. One that is not has the value that the file gives it
last, if it gives one. -/
theorem get?_dotenv {text : String} (h : env.dotenv text = .ok new) (name : String) :
    new.get? name =
      (env.get? name).or ((env.resolve (Binding.readAll text)).get? name).join := by
  rw [dotenv_eq] at h
  rw [eq_foldl_of_foldlM_takeUp h, get?_foldl_adopt (nodup_keys_resolve env _)]
  cases env.get? name with
  | none => rw [if_pos rfl, Option.or_none, Option.none_or]
  | some v => rw [if_neg (Option.some_ne_none v), Option.some_or]

/-- Whether environments are the same but for one variable. -/
def AgreeBut (name : String) (env other : Environment) : Prop :=
  ∀ key, key ≠ name → other.get? key = env.get? key

theorem AgreeBut.note (h : AgreeBut name env other) {b : Binding} (hb : ¬b.RefersTo name)
    (above : Named (Option String)) : other.note above b = env.note above b := by
  rw [Environment.note, Environment.note]
  cases hv : b.value with
  | none => rfl
  | some value =>
    have hrefs : ∀ ref ∈ Reference.found value, other.value above ref = env.value above ref := by
      intro ref href
      have hname : ref.name ≠ name := fun hn => hb ⟨value, hv, ref, href, hn⟩
      rw [Environment.value, Environment.value, h ref.name hname]
    rw [Option.map_some, Option.map_some, Reference.expand_congr hrefs]

theorem AgreeBut.resolve (h : AgreeBut name env other)
    (hb : ∀ b ∈ bindings, ¬b.RefersTo name) : other.resolve bindings = env.resolve bindings := by
  rw [resolve_eq, resolve_eq]
  generalize ([] : Named (Option String)) = above
  induction bindings generalizing above with
  | nil => rfl
  | cons b bindings ih =>
    obtain ⟨hfirst, hrest⟩ := List.forall_mem_cons.1 hb
    rw [List.foldl_cons, List.foldl_cons, h.note hfirst above]
    exact ih hrest _

/-- Whether there can be a variable of this name and value. -/
structure Admissible (name value : String) : Prop where
  noNull : '\x00' ∉ name.toList ∧ '\x00' ∉ value.toList
  noEquals : '=' ∉ name.toList

theorem set_of_admissible {value : String} (h : Admissible name value) (env : Environment) :
    env.set name value = .ok (env.put name value) := by
  have hnull : ¬(name.toList.contains '\x00' = true ∨ value.toList.contains '\x00' = true) := by
    rw [List.contains_iff_mem, List.contains_iff_mem]
    exact not_or.2 h.noNull
  have hequals : ¬name.toList.contains '=' = true := by
    rw [List.contains_iff_mem]
    exact h.noEquals
  rw [set, if_neg hnull, if_neg hequals]

theorem exists_set_eq_error {value : String} (h : ¬Admissible name value) :
    ∃ said, ∀ env : Environment, env.set name value = .error said := by
  simp only [Environment.set, List.contains_iff_mem]
  by_cases hnull : '\x00' ∈ name.toList ∨ '\x00' ∈ value.toList
  · exact ⟨_, fun _ => if_pos hnull⟩
  by_cases hequals : '=' ∈ name.toList
  · exact ⟨_, fun _ => (if_neg hnull).trans (if_pos hequals)⟩
  · exact absurd ⟨not_or.1 hnull, hequals⟩ h

theorem AgreeBut.put (h : AgreeBut name env other) (key value : String) :
    AgreeBut name (env.put key value) (other.put key value) := by
  intro k hk
  simp [h k hk]

theorem AgreeBut.put_right (h : AgreeBut name env other) (value : String) :
    AgreeBut name env (other.put name value) := by
  intro k hk
  simp [hk, h k hk]

theorem AgreeBut.put_left (h : AgreeBut name env other) (value : String) :
    AgreeBut name (env.put name value) other := by
  intro k hk
  simp [hk, h k hk]

theorem AgreeBut.takeUp (h : AgreeBut name env other) {entry : String × Option String}
    (hentry : entry.1 = name → ∀ value, entry.2 = some value → Admissible name value)
    {new newer : Environment} (hn : AgreeBut name new newer) :
    Matching (AgreeBut name) (env.takeUp new entry) (other.takeUp newer entry) := by
  obtain ⟨key, value⟩ := entry
  cases value with
  | none => exact .ok hn
  | some value =>
    unfold Environment.takeUp
    dsimp only
    by_cases hkey : key = name
    · -- Each of the two may have the variable set already or not.
      subst hkey
      have hset := set_of_admissible (hentry rfl value rfl)
      rw [hset, hset]
      cases (env.get? key).isSome <;> cases (other.get? key).isSome
      · exact .ok (hn.put key value)
      · exact .ok (hn.put_left value)
      · exact .ok (hn.put_right value)
      · exact .ok hn
    · rw [h key hkey]
      split
      · exact .ok hn
      · by_cases hadmissible : Admissible key value
        · rw [set_of_admissible hadmissible, set_of_admissible hadmissible]
          exact .ok (hn.put key value)
        · obtain ⟨said, hset⟩ := exists_set_eq_error hadmissible
          rw [hset, hset]
          exact .error

theorem AgreeBut.foldlM_takeUp (h : AgreeBut name env other) {entries : Named (Option String)}
    (hentries : ∀ value, (name, some value) ∈ entries → Admissible name value)
    {new newer : Environment} (hn : AgreeBut name new newer) :
    Matching (AgreeBut name) (entries.foldlM env.takeUp new)
      (entries.foldlM other.takeUp newer) := by
  induction entries generalizing new newer with
  | nil => exact .ok hn
  | cons entry entries ih =>
    rw [List.foldlM_cons, List.foldlM_cons]
    have hentry : entry.1 = name → ∀ value, entry.2 = some value → Admissible name value := by
      intro hname value hvalue
      apply hentries value
      rw [← hname, ← hvalue]
      exact List.mem_cons_self
    refine (h.takeUp hentry hn).bind ?_
    intro new newer hn
    exact ih (fun value hvalue => hentries value (.tail _ hvalue)) hn

/-- A file that does not refer to the variable sets all the others alike, if it gives the variable
itself no value that it cannot have. -/
theorem AgreeBut.dotenv (h : AgreeBut name env other) {text : String}
    (hb : ∀ b ∈ Binding.readAll text, ¬b.RefersTo name)
    (hgiven : ∀ value, (env.resolve (Binding.readAll text)).get? name = some (some value) →
      Admissible name value) :
    Matching (AgreeBut name) (env.dotenv text) (other.dotenv text) := by
  rw [dotenv_eq, dotenv_eq, h.resolve hb]
  apply h.foldlM_takeUp _ h
  intro value hvalue
  exact hgiven value ((Keyed.get?_eq_some_iff (nodup_keys_resolve env _)).2 hvalue)

end Environment

/-- Whether a platform sets the variables that a file gives, those apart that are set already. What
a file gives may depend on what is set. -/
def Platform.SetsUnset (platform : Platform)
    (given : Environment → String → String → Option String) : Prop :=
  ∀ env text new, platform.addVariables env text = .ok new →
    ∀ name, new.get? name = (env.get? name).or (given env text name)

/-- What a file gives a variable in the end. -/
def Environment.given (env : Environment) (text name : String) : Option String :=
  ((env.resolve (Binding.readAll text)).get? name).join

theorem Platform.setsUnset_dotenv : Platform.SetsUnset {} Environment.given :=
  fun _ _ _ h name => Environment.get?_dotenv h name

end Sitewright
