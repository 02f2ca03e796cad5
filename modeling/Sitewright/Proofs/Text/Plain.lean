import Sitewright.Files.Basic
import Sitewright.Proofs.Text.Utf8

namespace Sitewright

namespace Text

variable {s t : List Char} {c : Char}

/-- Whether a character is one byte, and the same one in a text file wherever that is read. -/
def isPlain (c : Char) : Bool := decide (c.toNat < 0x80) && c != '\r'

def Plain (s : List Char) : Prop := ∀ c ∈ s, isPlain c = true

instance (s : List Char) : Decidable (Plain s) :=
  decidable_of_iff (s.all isPlain = true) List.all_eq_true

@[simp] theorem plain_nil : Plain [] := nofun

theorem plain_cons (hc : isPlain c = true) (hs : Plain s) : Plain (c :: s) :=
  List.forall_mem_cons.2 ⟨hc, hs⟩

theorem plain_append (hs : Plain s) (ht : Plain t) : Plain (s ++ t) :=
  List.forall_mem_append.2 ⟨hs, ht⟩

theorem plain_replicate (n : Nat) (hc : isPlain c = true) : Plain (List.replicate n c) := by
  intro d hd
  rw [(List.mem_replicate.1 hd).2]
  exact hc

theorem isPlain_of_isDigit (h : c.isDigit = true) : isPlain c = true := by
  have hd : c.toNat < 0x80 := Nat.lt_of_le_of_lt (Char.isDigit_iff_toNat.1 h).2 (by decide)
  have hr : c ≠ '\r' := by
    rintro rfl
    cases h
  simp only [isPlain, Bool.and_eq_true, decide_eq_true_eq, bne_iff_ne]
  exact ⟨hd, hr⟩

theorem universalLines_of_plain (h : Plain s) : universalLines s = s := by
  induction s with
  | nil => rfl
  | cons c s ih =>
    have hc := h c List.mem_cons_self
    have hr : c ≠ '\r' := by
      rintro rfl
      cases hc
    have hs := ih fun d hd => h d (List.mem_cons_of_mem c hd)
    rw [universalLines.eq_def]
    split
    · next he => cases he
    · next he => cases he; exact absurd rfl hr
    · next he => cases he; exact absurd rfl hr
    · next he => cases he; rw [hs]

end Text

/-- Plain characters come back from a text file as they were put there. -/
theorem Files.textOfBytes_encode {s : List Char} (h : Text.Plain s) :
    textOfBytes (Text.Utf8.encode s) = .ok (String.ofList s) := by
  rw [textOfBytes, Text.Utf8.decode_eq_ok_iff.2 rfl, Except.map, Text.universalLines_of_plain h]

end Sitewright
