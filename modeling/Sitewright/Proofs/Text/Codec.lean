import Mathlib.Data.List.TakeWhile
import Sitewright.Text.Codec

namespace Sitewright.Text

variable {codec : Codec} {s t : List Char}

/-- Whether there are bytes for all of a text. -/
def Codec.Writes (codec : Codec) (s : List Char) : Prop := ∀ c ∈ s, codec.covers c = true

namespace Codec

theorem unencodable?_eq_none_iff : codec.unencodable? s = none ↔ codec.Writes s := by
  rw [Writes, ← List.dropWhile_eq_nil_iff, unencodable?]
  split
  · next h => exact iff_of_true rfl h
  · next h => exact iff_of_false nofun fun hnil => nomatch h.symm.trans hnil

@[simp] theorem writes_append : codec.Writes (s ++ t) ↔ codec.Writes s ∧ codec.Writes t :=
  List.forall_mem_append

end Codec

end Sitewright.Text
