import CallWire.Call.Decoder
import CallWire.Proofs.Results

/-!
This module contains what lists of records are decoded to. On an array it is what the items are
decoded to one by one, and the first item that cannot be decoded says what is wrong.
-/

namespace CallWire

section

variable {α : Type} {read : ShapeReader α}

theorem decodeList_array (read : ShapeReader α) (items : List Json)
    : decodeList read (.array items) = decodeAs (Json.readList read) (.array items) := by
  exact exceptMapM_mapError read DecodeError.shape items

theorem decodeList_singleton (read : ShapeReader α) (v : Json)
    : decodeList read (.array [v]) = (decodeAs read v).map ([·]) := by
  change [v].mapM (decodeAs read) = _
  rw [exceptMapM_cons, exceptMapM_nil]
  cases decodeAs read v <;> rfl

/--
A list of records, of whatever type. An array gives a list if each of its items gives a record, and
these are the records of the list in their order. Otherwise the first item that gives none says what
is wrong. So on arrays a list of records is as good as a value at the type of lists. An object is
decoded as if it stood alone in an array. Null is the empty list, and other values that are no
containers are refused with their own text, even where a record may be null or such a value.
-/
theorem list_decoded_by_items {α : Type} (read : ShapeReader α)
    : (∀ items : List Json,
        ((∃ records, decodeList read (.array items) = .ok records)
          ↔ ∀ item ∈ items, ∃ record, decodeAs read item = .ok record)
        ∧ (∀ records, decodeList read (.array items) = .ok records →
            records.length = items.length
              ∧ List.Forall₂ (fun item record => decodeAs read item = .ok record) items records)
        ∧ (∀ e, decodeList read (.array items) = .error e
            ↔ ∃ front item back, items = front ++ item :: back
              ∧ (∀ x ∈ front, ∃ record, decodeAs read x = .ok record)
              ∧ decodeAs read item = .error e)
        ∧ decodeList read (.array items) = decodeAs (Json.readList read) (.array items))
      ∧ (∀ members, decodeList read (.object members) = decodeList read (.array [.object members]))
      ∧ decodeList read .null = .ok []
      ∧ (∀ v, v ≠ .null → (∀ items, v ≠ .array items) → (∀ members, v ≠ .object members) →
          decodeList read v = .error (.custom ("expected a list or a record, got " ++ v.render)))
      -- So it is for the decoders that calls bring, at every shape.
      ∧ (∀ (shape : Shape) (items : List Json),
          (Decoding.list shape).decoder.decode (.array items)
            = (Decoding.json (.list shape)).decoder.decode (.array items)) := by
  refine ⟨?_, ?_, rfl, ?_, ?_⟩
  . intro items
    refine ⟨exists_exceptMapM_iff, ?_, ?_, decodeList_array read items⟩
    . intro records hrecords
      have hall := forall₂_of_exceptMapM hrecords
      exact ⟨hall.length_eq.symm, hall⟩
    . intro e
      exact exceptMapM_eq_error_iff
  . intro members
    rw [decodeList_singleton]
    rfl
  . intro v hnull harray hobject
    cases v with
    | null => exact absurd rfl hnull
    | array items => exact absurd rfl (harray items)
    | object members => exact absurd rfl (hobject members)
    | bool b => rfl
    | number n => rfl
    | string s => rfl
  . intro shape items
    change (decodeList shape.read (.array items)).map Json.array
      = decodeAs (Shape.list shape).read (.array items)
    rw [decodeList_array]
    unfold decodeAs
    rw [Shape.read]
    cases Json.readList shape.read (.array items) <;> rfl

example : decodeList (Json.readOption Json.readText?) .null = .ok [] := rfl

end
end CallWire
