import CallWire.Path
import CallWire.Text.Bytes

/-!
This module contains that texts and their bytes say the same: a text can be read back from its bytes,
and bytes that are a text are those of the text.
-/

namespace CallWire

namespace Bytes

theorem toList_loop (b : ByteArray) (i : Nat) (r : List UInt8)
    : ByteArray.toList.loop b i r = r.reverse ++ b.data.toList.drop i := by
  fun_induction ByteArray.toList.loop b i r with
  | case1 i r hlt ih =>
    have hlength : i < b.data.toList.length := by simpa using hlt
    have hget : b.get! i = b.data.toList[i] := by
      rw [Array.getElem_toList]
      exact getElem!_pos b.data i hlt
    rw [ih, List.reverse_cons, List.append_assoc, List.singleton_append, hget]
    rw [← List.drop_eq_getElem_cons hlength]
  | case2 i r hge =>
    rw [List.drop_eq_nil_of_le (by simpa using hge), List.append_nil]

theorem ofText_eq (s : String) : ofText s = s.toByteArray.data.toList :=
  (toList_loop s.toByteArray 0 []).trans List.drop_zero

theorem ofText_of_text? {b : Bytes} {s : String} (h : b.text? = some s) : ofText s = b := by
  unfold text? String.fromUTF8? at h
  split at h
  . cases h
    exact ofText_eq _
  . cases h

theorem text?_ofText (s : String) : (ofText s).text? = some s := by
  unfold text? String.fromUTF8?
  rw [ofText_eq, Array.toArray_toList]
  exact dif_pos s.isValidUTF8

end Bytes

namespace Path

variable {p : Path} {s : String}

theorem ofText_of_text? (h : p.text? = some s) : ofText s = p := by
  exact congrArg Path.mk (Bytes.ofText_of_text? h)

end Path
end CallWire
