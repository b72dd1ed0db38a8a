import LispDatum.Unicode.CodeRange

/-!
# White space

The characters that have the Unicode property White_Space: 25 code points.
-/

namespace LispDatum.Unicode

/-- All white space, in increasing order. -/
def whiteSpaceRanges : List CodeRange := [
    ⟨0x9, 0xd⟩, ⟨0x20, 0x20⟩, ⟨0x85, 0x85⟩, ⟨0xa0, 0xa0⟩, ⟨0x1680, 0x1680⟩,
    ⟨0x2000, 0x200a⟩, ⟨0x2028, 0x2029⟩, ⟨0x202f, 0x202f⟩, ⟨0x205f, 0x205f⟩,
    ⟨0x3000, 0x3000⟩]

/-- A character that may surround a word without belonging to it. -/
def isWhiteSpace (char : Char) : Bool :=
  covers whiteSpaceRanges char.toNat

/-- A text without the white space at its ends. -/
def trim (text : List Char) : List Char :=
  ((text.dropWhile isWhiteSpace).reverse.dropWhile isWhiteSpace).reverse

end LispDatum.Unicode
