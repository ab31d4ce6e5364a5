import Mathlib.Data.List.Basic

namespace OpenApiTypes
namespace Text

/-!
# The number of octets of a text
-/

private theorem length_toList_loop (octets : ByteArray) (index : Nat) (reversed : List UInt8) :
    (ByteArray.toList.loop octets index reversed).length =
      octets.size - index + reversed.length := by
  induction index, reversed using ByteArray.toList.loop.induct octets with
  | case1 index reversed within inductionHypothesis =>
      rw [ByteArray.toList.loop, if_pos within, inductionHypothesis, List.length_cons]
      omega
  | case2 index reversed outside =>
      rw [ByteArray.toList.loop, if_neg outside, List.length_reverse]
      omega

/-- A text has as many octets as its size says. -/
theorem length_toUTF8_toList (text : String) :
    text.toUTF8.toList.length = text.utf8ByteSize := by
  rw [ByteArray.toList, length_toList_loop, List.length_nil, Nat.add_zero, Nat.sub_zero]
  rfl

end Text
end OpenApiTypes
