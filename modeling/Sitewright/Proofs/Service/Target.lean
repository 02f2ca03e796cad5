import Sitewright.Proofs.Site.WellFormed
import Sitewright.Proofs.Text.Digit
import Sitewright.Proofs.Text.Utf8
import Sitewright.Service.Framework

namespace Sitewright

namespace Target

/-- Whether a text is the escapes of these bytes, with digits of either case. -/
inductive Escapes : List Char → List UInt8 → Prop
  | nil : Escapes [] []
  | cons {a b : Char} {high low : Nat} {code : List Char} {bytes : List UInt8}
      (ha : Text.hexValue? a = some high) (hb : Text.hexValue? b = some low)
      (h : Escapes code bytes) :
      Escapes ('%' :: a :: b :: code) (UInt8.ofNat (high * 16 + low) :: bytes)

/-- Whether one text spells another: each character stands as it is, or for it stand the escapes
of its bytes. -/
inductive Spells : List Char → List Char → Prop
  | nil : Spells [] []
  | plain {c : Char} {raw s : List Char} (hc : c ≠ '%') (h : Spells raw s) :
      Spells (c :: raw) (c :: s)
  | escaped {c : Char} {code raw s : List Char} (hc : Escapes code (String.utf8EncodeChar c))
      (h : Spells raw s) : Spells (code ++ raw) (c :: s)

variable {code raw s tail : List Char} {bytes : List UInt8} {c : Char} {path : String}

theorem escaped?_of_ne (hc : c ≠ '%') (rest : List Char) : escaped? (c :: rest) = none := by
  unfold escaped?
  split
  · next heq => exact absurd (List.cons.inj heq).1 hc
  · rfl

theorem Escapes.bytesFrom_append (h : Escapes code bytes) (rest : List Char) :
    bytesFrom 0 (code ++ rest) = bytes ++ bytesFrom 0 rest := by
  induction h with
  | nil => rfl
  | @cons a b high low code bytes ha hb _ ih =>
    have hbyte : escaped? ('%' :: a :: b :: (code ++ rest)) =
        some (UInt8.ofNat (high * 16 + low)) := by
      rw [escaped?, ha, hb]
      rfl
    rw [List.cons_append, List.cons_append, List.cons_append, bytesFrom, hbyte]
    exact congrArg (_ :: ·) ih

theorem Spells.bytesFrom_eq (h : Spells raw s) : bytesFrom 0 raw = Text.Utf8.encode s := by
  induction h with
  | nil => rfl
  | plain hc _ ih => rw [bytesFrom, escaped?_of_ne hc, ih, Text.Utf8.encode_cons]
  | escaped hc _ ih => rw [hc.bytesFrom_append, ih, Text.Utf8.encode_cons]

theorem Spells.decode_eq (h : Spells raw s) : decode raw = s := by
  rw [decode, h.bytesFrom_eq, Text.Utf8.decodeLossy_encode]

/-- The escape of a byte. -/
def escape (b : UInt8) : List Char :=
  ['%', Nat.digitChar (b.toNat / 16), Nat.digitChar (b.toNat % 16)]

/-- A text with escapes only. -/
def escapeAll (s : List Char) : List Char := (Text.Utf8.encode s).flatMap escape

theorem escapes_flatMap (bytes : List UInt8) : Escapes (bytes.flatMap escape) bytes := by
  induction bytes with
  | nil => exact .nil
  | cons b bytes ih =>
    have hb := b.toNat_lt
    have hbyte : UInt8.ofNat (b.toNat / 16 * 16 + b.toNat % 16) = b :=
      Text.Utf8.ofNat_eq (Nat.div_add_mod' b.toNat 16)
    have hcons := Escapes.cons (Text.hexValue?_digitChar (n := b.toNat / 16) (by omega))
      (Text.hexValue?_digitChar (n := b.toNat % 16) (by omega)) ih
    rwa [hbyte] at hcons

theorem spells_escapeAll (s : List Char) : Spells (escapeAll s) s := by
  induction s with
  | nil => exact .nil
  | cons c s ih =>
    rw [escapeAll, Text.Utf8.encode_cons, List.flatMap_append]
    exact .escaped (escapes_flatMap _) ih

theorem Escapes.of_mem (h : Escapes code bytes) (hc : c ∈ code) :
    c = '%' ∨ (Text.hexValue? c).isSome = true := by
  induction h with
  | nil => cases hc
  | cons ha hb _ ih =>
    obtain rfl | hc := List.mem_cons.1 hc
    · exact .inl rfl
    obtain rfl | hc := List.mem_cons.1 hc
    · exact .inr (ha ▸ rfl)
    obtain rfl | hc := List.mem_cons.1 hc
    · exact .inr (hb ▸ rfl)
    · exact ih hc

theorem not_mem_escapeAll (hc : c ≠ '%') (hv : Text.hexValue? c = none) (s : List Char) :
    c ∉ escapeAll s := by
  intro hmem
  obtain h | h := (escapes_flatMap _).of_mem hmem
  · exact hc h
  · rw [hv] at h
    cases h

/-- Whether an address spells a path after its first slash, with nothing in it that is taken for
another site, a way up, parameters or a fragment. -/
structure Addresses (raw : List Char) (path : String) : Prop where
  spells : Spells ('/' :: raw) path.toList
  onSite : raw.head? ≠ some '/'
  straight : ∀ segment ∈ splitOn '/' raw, segment ≠ ['.'] ∧ segment ≠ ['.', '.']
  inPath : ∀ c ∈ raw, c ≠ '?' ∧ c ≠ '#'

/-- Whether a text is what may follow the path in an address. -/
def FollowsPath (tail : List Char) : Prop := ∀ c ∈ tail.head?, c = '?' ∨ c = '#'

theorem withoutDots_of_straight {segments : List (List Char)}
    (h : ∀ segment ∈ segments, segment ≠ ['.'] ∧ segment ≠ ['.', '.']) :
    withoutDots segments = segments := by
  have hfold (done : List (List Char)) :
      segments.foldl
        (fun done segment =>
          if segment = ['.'] then done
          else if segment = ['.', '.'] then (if done = [[]] then done else done.dropLast)
          else done ++ [segment])
        done = done ++ segments := by
    induction segments generalizing done with
    | nil => exact (List.append_nil done).symm
    | cons segment segments ih =>
      obtain ⟨⟨hone, htwo⟩, hrest⟩ := List.forall_mem_cons.1 h
      rw [List.foldl_cons, if_neg hone, if_neg htwo, ih hrest, List.append_assoc,
        List.singleton_append]
  exact hfold []

/-- The path of an address ends where parameters or a fragment begin. -/
theorem takeWhile_path (hpath : ∀ c ∈ raw, c ≠ '?' ∧ c ≠ '#') (ht : FollowsPath tail) :
    ((raw ++ tail).takeWhile (· != '#')).takeWhile (· != '?') = raw := by
  have hfragment : ∀ c ∈ raw, (c != '#') = true := fun c hc => bne_iff_ne.2 (hpath c hc).2
  have hquery : ∀ c ∈ raw, (c != '?') = true := fun c hc => bne_iff_ne.2 (hpath c hc).1
  rw [List.takeWhile_append_of_pos hfragment, List.takeWhile_append_of_pos hquery]
  cases tail with
  | nil => exact List.append_nil raw
  | cons c tail =>
    obtain rfl | rfl := ht c rfl
    · exact List.append_nil raw
    · exact List.append_nil raw

theorem Addresses.path_ofUrl (h : Addresses raw path) (ht : FollowsPath tail) :
    (ofUrl (String.ofList ('/' :: raw ++ tail))).path = path := by
  have hinside : ∀ c ∈ '/' :: raw, c ≠ '?' ∧ c ≠ '#' :=
    List.forall_mem_cons.2 ⟨by decide, h.inPath⟩
  have hraw : raw.dropWhile (· == '/') = raw := by
    cases raw with
    | nil => rfl
    | cons c raw =>
      have hc : ¬(c == '/') = true := fun hc => h.onSite (congrArg some (beq_iff_eq.1 hc))
      exact List.dropWhile_cons_of_neg hc
  have hsegments : withoutDots ([] :: splitOn '/' raw) = [] :: splitOn '/' raw :=
    withoutDots_of_straight (List.forall_mem_cons.2 ⟨by decide, h.straight⟩)
  have hsome : splitOn '/' raw ≠ [] := List.splitOnP_ne_nil _ _
  have hmany : ([] :: splitOn '/' raw : List (List Char)) ≠ [[]] :=
    fun heq => hsome (List.cons.inj heq).2
  have hjoined : joinWith '/' ([] :: splitOn '/' raw) = '/' :: raw := by
    obtain ⟨segment, segments, hcons⟩ := List.exists_cons_of_ne_nil hsome
    have hback : joinWith '/' (splitOn '/' raw) = raw := List.intercalate_splitOn '/'
    rw [hcons] at hback ⊢
    rw [← hback]
    rfl
  unfold ofUrl
  dsimp only
  rw [String.toList_ofList, takeWhile_path hinside ht]
  split
  · next heq =>
    obtain rfl := (List.cons.inj heq).2
    exact absurd rfl h.onSite
  · rw [List.dropWhile_cons_of_pos rfl, hraw, hsegments, if_neg hmany, hjoined,
      h.spells.decode_eq, String.ofList_toList]

/-- Every path has an address, whatever text it is. -/
theorem addresses_escapeAll (h : Rooted path) : Addresses (escapeAll path.toList.tail) path := by
  have hfree {c : Char} (hc : c ≠ '%') (hv : Text.hexValue? c = none) :
      c ∉ escapeAll path.toList.tail := not_mem_escapeAll hc hv _
  have hslash := hfree (c := '/') (by decide) (by decide)
  have hdot := hfree (c := '.') (by decide) (by decide)
  have hsingle : splitOn '/' (escapeAll path.toList.tail) = [escapeAll path.toList.tail] :=
    List.splitOnP_eq_singleton fun c hc => beq_false_of_ne fun heq => hslash (heq ▸ hc)
  constructor
  · have hcons : path.toList = '/' :: path.toList.tail := (List.eq_cons_of_mem_head? h)
    have hspells := Spells.plain (c := '/') (by decide) (spells_escapeAll path.toList.tail)
    rwa [← hcons] at hspells
  · exact fun hhead => hslash (List.mem_of_mem_head? hhead)
  · rw [hsingle, List.forall_mem_singleton]
    exact ⟨fun heq => hdot (heq ▸ List.mem_cons_self), fun heq => hdot (heq ▸ List.mem_cons_self)⟩
  · intro c hc
    constructor
    · rintro rfl
      exact hfree (by decide) (by decide) hc
    · rintro rfl
      exact hfree (by decide) (by decide) hc

end Target

/-- Whether an address that spells a path is read as this path, whatever follows it. -/
def Framework.ReadsAddresses (framework : Framework) : Prop :=
  ∀ raw tail path, Target.Addresses raw path → Target.FollowsPath tail →
    (framework.target (String.ofList ('/' :: raw ++ tail))).path = path

theorem Framework.readsAddresses_ofUrl : Framework.ReadsAddresses {} :=
  fun _ _ _ haddress htail => haddress.path_ofUrl htail

end Sitewright
