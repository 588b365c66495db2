import Conformance.Utf8

/-!
# The order of bytes

Texts are listed in the order of their UTF-8 bytes. The order is total on texts: two texts that
are not ordered either way are equal.
-/

namespace Conformance.ByteOrder

/-- Whether `a` comes before `b`. -/
def Before (a b : String) : Prop := Utf8.encode a < Utf8.encode b

instance (a b : String) : Decidable (Before a b) :=
  inferInstanceAs (Decidable (Utf8.encode a < Utf8.encode b))

theorem encode_inj {a b : String} (h : Utf8.encode a = Utf8.encode b) : a = b := by
  have h : a.toUTF8.data.toList = b.toUTF8.data.toList := h
  exact String.toByteArray_inj.1 (ByteArray.ext (Array.toList_inj.1 h))

theorem irrefl (a : String) : ¬ Before a a := List.lt_irrefl _

theorem trans {a b c : String} (h : Before a b) (k : Before b c) : Before a c :=
  List.lt_trans h k

theorem eq_of_not_before {a b : String} (h : ¬ Before a b) (k : ¬ Before b a) : a = b :=
  encode_inj (List.le_antisymm k h)

end Conformance.ByteOrder
