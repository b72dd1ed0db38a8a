/-!
# Hexadecimal codes of fixed width

Escapes of unprintable characters write a code point with a fixed number of
lower-case hexadecimal digits, most significant first.
-/

namespace LispDatum.Text

/-- The last `width` hexadecimal digits of `code`. -/
def hexCode : Nat → Nat → List Char
  | 0, _ => []
  | width + 1, code => hexCode width (code / 16) ++ [Nat.digitChar (code % 16)]

@[simp]
theorem length_hexCode (width code : Nat) :
    (hexCode width code).length = width := by
  induction width generalizing code with
  | zero => rfl
  | succ width hind => simp [hexCode, hind]

end LispDatum.Text
