import Sitewright.Json.Emitter
import Sitewright.Proofs.Json.RoundTrip

namespace Sitewright.Json

/-- What may be written of a text whose value has this first integer that is too long and goes so
deep: the whole of it, or a part before something that cannot be written. -/
inductive Emits (room : Nat) (whole : List Char) (long : Option Nat) (depth : Nat) : Emitted → Prop
  | whole (hl : long = none) (hd : depth ≤ room) : Emits room whole long depth ⟨whole, none⟩
  | long {part : List Char} (hp : part <+: whole) (hl : long.isSome = true) :
    Emits room whole long depth ⟨part, some (.long .shown)⟩
  | deep {part : List Char} (hp : part <+: whole) (hd : room < depth) :
    Emits room whole long depth ⟨part, some (.deep .written)⟩

variable {room depth inner : Nat} {whole before rest : List Char} {long later : Option Nat}
  {e : Emitted} {setting : Setting}

theorem Emits.part (h : Emits room whole long depth e) : e.text <+: whole := by
  cases h with
  | whole => exact List.prefix_refl whole
  | long hp => exact hp
  | deep hp => exact hp

theorem emits_tooDeep (hd : 0 < depth) : Emits 0 whole long depth .tooDeep :=
  .deep (List.nil_prefix) hd

theorem Emits.behind (h : Emits room whole long depth e) (before : List Char) :
    Emits room (before ++ whole) long depth (e.behind before) := by
  cases h with
  | whole hl hd => exact .whole hl hd
  | long hp hl => exact .long ((List.prefix_append_right_inj before).2 hp) hl
  | deep hp hd => exact .deep ((List.prefix_append_right_inj before).2 hp) hd

/-- A bracket takes one place of the room. -/
theorem Emits.bracket (h : Emits room whole long depth e) :
    Emits (room + 1) whole long (depth + 1) e := by
  cases h with
  | whole hl hd => exact .whole hl (Nat.succ_le_succ hd)
  | long hp hl => exact .long hp hl
  | deep hp hd => exact .deep hp (Nat.succ_lt_succ hd)

/-- What stops at its first part stops altogether. -/
theorem Emits.stop {part : List Char} {halt : Halt}
    (h : Emits room whole long depth ⟨part, some halt⟩) {shown : List Char}
    (hs : shown <+: before ++ part) :
    Emits room (before ++ (whole ++ rest)) (long.or later) (max depth inner)
      ⟨shown, some halt⟩ := by
  have hp : shown <+: before ++ (whole ++ rest) :=
    hs.trans <| (List.prefix_append_right_inj before).2 <|
      h.part.trans (List.prefix_append whole rest)
  cases h with
  | long _ hl => exact .long hp (by rw [Option.isSome_or, hl, Bool.true_or])
  | deep _ hd => exact .deep hp (Nat.lt_of_lt_of_le hd (Nat.le_max_left depth inner))

/-- What comes after a part that is written stops where it stops by itself. -/
theorem Emits.next (hl : long = none) (hd : depth ≤ room) (h : Emits room rest later inner e) :
    Emits room (whole ++ rest) (long.or later) (max depth inner) (e.behind whole) := by
  rw [hl, Option.none_or]
  apply Emits.behind
  cases h with
  | whole hl' hd' => exact .whole hl' (Nat.max_le.2 ⟨hd, hd'⟩)
  | long hp hl' => exact .long hp hl'
  | deep hp hd' => exact .deep hp (Nat.lt_of_lt_of_le hd' (Nat.le_max_right depth inner))

/-- Items up to the closing bracket, with what comes before the first one. -/
def itemsFrom (setting : Setting) (depth : Nat) (before : List Char) : List Json → List Char
  | [] => []
  | item :: items => before ++ itemsBody setting depth (item :: items)

def fieldsFrom (setting : Setting) (depth : Nat) (before : List Char) :
    List (String × Json) → List Char
  | [] => []
  | field :: fields => before ++ fieldsBody setting depth (field :: fields)

theorem itemsFrom_between (setting : Setting) (depth : Nat) (items : List Json) :
    itemsFrom setting depth (setting.between depth) items = itemsText setting depth items := by
  cases items with
  | nil => rfl
  | cons item items => rw [itemsFrom, itemsText_cons]

theorem fieldsFrom_between (setting : Setting) (depth : Nat) (fields : List (String × Json)) :
    fieldsFrom setting depth (setting.between depth) fields = fieldsText setting depth fields := by
  cases fields with
  | nil => rfl
  | cons field fields => rw [fieldsFrom, fieldsText_cons]

mutual

/-- A value is written as far as its integers are short enough and there is room for it. -/
theorem emits (setting : Setting) : (v : Json) → (room depth : Nat) →
    Emits room (textWith setting depth v) v.long? v.depth (emit setting room depth v)
  | .null, _, _ => .whole rfl (Nat.zero_le _)
  | .bool _, _, _ => .whole rfl (Nat.zero_le _)
  | .float _, _, _ => .whole rfl (Nat.zero_le _)
  | .str _, _, _ => .whole rfl (Nat.zero_le _)
  | .int n, _, _ => by
    rw [emit]
    split
    · next hlong => exact .long List.nil_prefix hlong
    · next hshort =>
      rw [Bool.not_eq_true, Option.isSome_eq_false_iff, Option.isNone_iff_eq_none] at hshort
      exact .whole hshort (Nat.zero_le _)
  | .arr [], room, _ => by
    rw [emit]
    split
    · next hroom =>
      subst hroom
      exact emits_tooDeep Nat.one_pos
    · next hroom => exact .whole rfl (Nat.one_le_iff_ne_zero.2 hroom)
  | .arr (_ :: _), 0, _ => by
    rw [emit]
    exact emits_tooDeep (Nat.succ_pos _)
  | .arr (item :: items), room + 1, depth => by
    have h := emitsItems setting (item :: items) room depth ('[' :: setting.opening depth)
    rw [emit, textWith_arr]
    rw [itemsFrom, List.append_assoc, List.cons_append] at h
    exact h.bracket
  | .obj [], room, _ => by
    rw [emit]
    split
    · next hroom =>
      subst hroom
      exact emits_tooDeep Nat.one_pos
    · next hroom => exact .whole rfl (Nat.one_le_iff_ne_zero.2 hroom)
  | .obj (_ :: _), 0, _ => by
    rw [emit]
    exact emits_tooDeep (Nat.succ_pos _)
  | .obj (field :: fields), room + 1, depth => by
    have h := emitsFields setting (field :: fields) room depth ('{' :: setting.opening depth)
    rw [emit, textWith_obj]
    rw [fieldsFrom, List.append_assoc, List.cons_append] at h
    exact h.bracket

theorem emitsItems (setting : Setting) : (items : List Json) → (room depth : Nat) →
    (before : List Char) →
    Emits room (itemsFrom setting depth before items ++ (setting.closing depth ++ [']']))
      (itemsLong? items) (itemsDepth items) (emitItems setting room depth before items)
  | [], _, _, _ => .whole rfl (Nat.zero_le _)
  | item :: items, room, depth, before => by
    have hitem := emits setting item room (depth + 1)
    have hitems := emitsItems setting items room depth (setting.between depth)
    rw [itemsFrom_between] at hitems
    rw [emitItems, itemsFrom, itemsBody, itemsLong?, itemsDepth]
    cases he : emit setting room (depth + 1) item with
    | mk text halt? =>
      rw [he] at hitem
      cases halt? with
      | some halt =>
        rw [List.append_assoc before, List.append_assoc (textWith ..)]
        apply hitem.stop
        split
        · exact List.nil_prefix
        · exact List.prefix_refl _
      | none =>
        obtain ⟨hl, hd⟩ | _ | _ := hitem
        rw [← List.append_assoc before, List.append_assoc (before ++ _)]
        exact .next hl hd hitems

theorem emitsFields (setting : Setting) : (fields : List (String × Json)) → (room depth : Nat) →
    (before : List Char) →
    Emits room (fieldsFrom setting depth before fields ++ (setting.closing depth ++ ['}']))
      (fieldsLong? fields) (fieldsDepth fields) (emitFields setting room depth before fields)
  | [], _, _, _ => .whole rfl (Nat.zero_le _)
  | (name, value) :: fields, room, depth, before => by
    have hvalue := emits setting value room (depth + 1)
    have hfields := emitsFields setting fields room depth (setting.between depth)
    have hwhole :
        before ++ (stringText name ++ (':' :: ' ' :: textWith setting (depth + 1) value) ++
            fieldsText setting depth fields) ++ (setting.closing depth ++ ['}']) =
          before ++ stringText name ++ [':', ' '] ++ (textWith setting (depth + 1) value ++
            (fieldsText setting depth fields ++ (setting.closing depth ++ ['}']))) := by
      simp only [List.append_assoc, List.cons_append, List.nil_append]
    rw [fieldsFrom_between] at hfields
    rw [emitFields, fieldsFrom, fieldsBody, fieldsLong?, fieldsDepth, hwhole]
    cases he : emit setting room (depth + 1) value with
    | mk text halt? =>
      rw [he] at hvalue
      cases halt? with
      | some halt => exact hvalue.stop (List.prefix_refl _)
      | none =>
        obtain ⟨hl, hd⟩ | _ | _ := hvalue
        rw [← List.append_assoc]
        exact .next hl hd hfields

end

/-- What there is room for is written whole, if it has no integer that is too long. -/
theorem emit_eq {v : Json} (hl : v.long? = none) (hd : v.depth ≤ room) :
    emit setting room depth v = ⟨textWith setting depth v, none⟩ := by
  generalize he : emit setting room depth v = e
  have h := emits setting v room depth
  rw [he] at h
  cases h with
  | whole => rfl
  | long _ hlong =>
    rw [hl] at hlong
    cases hlong
  | deep _ hdeep => exact absurd hd (Nat.not_le.2 hdeep)

theorem emit_ne_deep {v : Json} {e : TooDeep} (hd : v.depth ≤ room) :
    (emit setting room depth v).halt? ≠ some (.deep e) := by
  intro he
  generalize hemitted : emit setting room depth v = emitted at he
  have h := emits setting v room depth
  rw [hemitted] at h
  cases h with
  | whole => cases he
  | long => cases he
  | deep _ hdeep => exact absurd hd (Nat.not_le.2 hdeep)

end Sitewright.Json
