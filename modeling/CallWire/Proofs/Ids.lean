import CallWire.Call.Id

/-!
This module contains when two draws of a session's ids give the same id: the ids come round after
all words of 64 bits were drawn, and not before that.
-/

namespace CallWire

namespace CallIds

theorem name_injective {m n : UInt64} (h : name m = name n) : m = n := by
  apply UInt64.toNat_inj.mp
  have hdigits := congrArg String.toList h
  unfold name at hdigits
  rw [Nat.toList_repr, Nat.toList_repr] at hdigits
  calc
    m.toNat = Nat.ofDigitChars 10 (Nat.toDigits 10 m.toNat) 0 :=
      Nat.ofDigitChars_ten_toDigits.symm
    _ = Nat.ofDigitChars 10 (Nat.toDigits 10 n.toNat) 0 := by rw [hdigits]
    _ = n.toNat := Nat.ofDigitChars_ten_toDigits

def after (count : Nat) : CallIds := ⟨UInt64.ofNat (1 + count)⟩

theorem draw_after (count : Nat) : (after count).draw.2 = after (count + 1) := by
  unfold after draw
  dsimp
  congr 1
  rw [← Nat.add_assoc, UInt64.ofNat_add (1 + count) 1]
  rfl

theorem le_of_draw_eq {i j : Nat} (hij : i < j) (h : (after i).draw.1 = (after j).draw.1)
    : 2 ^ 64 ≤ j := by
  have hword := congrArg UInt64.toNat (name_injective h)
  unfold after at hword
  rw [UInt64.toNat_ofNat', UInt64.toNat_ofNat'] at hword
  omega

end CallIds
end CallWire
