/-!
# The order of texts

Texts are ordered by the bytes of their encoding, the first difference deciding.
The order is total, and two texts that neither exceeds the other are equal.
-/

namespace ActivityLedger.Text

def bytes (text : String) : List UInt8 := text.toByteArray.data.toList

theorem bytes_injective {a b : String} (same : bytes a = bytes b) : a = b := by
  apply String.toByteArray_inj.mp
  apply ByteArray.ext
  exact Array.toList_inj.mp same

def precedes (a b : String) : Prop := bytes a < bytes b

instance (a b : String) : Decidable (precedes a b) :=
  inferInstanceAs (Decidable (bytes a < bytes b))

theorem not_precedes_self (a : String) : ¬ precedes a a := List.lt_irrefl (bytes a)

theorem precedes_trans {a b c : String} (first : precedes a b) (second : precedes b c) :
    precedes a c :=
  List.lt_trans first second

theorem eq_of_not_precedes {a b : String} (left : ¬ precedes a b) (right : ¬ precedes b a) :
    a = b :=
  bytes_injective (List.le_antisymm (List.not_lt.mp right) (List.not_lt.mp left))

end ActivityLedger.Text
