import DeviceKeys.Text.Utf8

/-! # The order of ids

Ids are ordered by their UTF-8 bytes (`Text.Before`). The order is irreflexive, transitive and
decides between any two different texts (`before_irrefl`, `before_trans`, `before_or_eq_or_before`),
because the bytes of a text determine it (`ofString_inj`).
-/

namespace DeviceKeys

namespace Utf8

theorem ofString_inj {s t : String} : ofString s = ofString t ↔ s = t := by
  constructor
  · intro h
    have e : s.toList.utf8Encode = t.toList.utf8Encode := by
      simpa [List.utf8Encode, ofString, encode] using congrArg List.toByteArray h
    rwa [String.utf8Encode_toList, String.utf8Encode_toList, String.toByteArray_inj] at e
  · rintro rfl
    rfl

end Utf8

namespace Text

/-- The bytes of `s` come before the bytes of `t`. -/
def Before (s t : String) : Prop := Utf8.ofString s < Utf8.ofString t

instance (s t : String) : Decidable (Before s t) :=
  inferInstanceAs (Decidable (Utf8.ofString s < Utf8.ofString t))

theorem before_irrefl (s : String) : ¬ Before s s := List.lt_irrefl _

theorem before_trans {s t u : String} (h : Before s t) (k : Before t u) : Before s u :=
  List.lt_trans h k

theorem before_or_eq_or_before (s t : String) : Before s t ∨ s = t ∨ Before t s := by
  by_cases h : Before s t
  · exact .inl h
  · rcases List.le_iff_lt_or_eq.1 (List.not_lt.1 h) with k | k
    · exact .inr (.inr k)
    · exact .inr (.inl (Utf8.ofString_inj.1 k.symm))

end Text

end DeviceKeys
