/-
# White space

The characters with the property `White_Space`: the ASCII blanks and line breaks, the next-line
control, and the spaces and separators beyond ASCII. The zero-width space is not among them.
-/

import SqlAssist.Text.CodeTable

namespace SqlAssist.Text

/-- The code points with the property `White_Space`. -/
def whiteSpaceTable : CodeTable := #[
  ⟨0x9, 0xD⟩, ⟨0x20, 0x20⟩, ⟨0x85, 0x85⟩, ⟨0xA0, 0xA0⟩, ⟨0x1680, 0x1680⟩, ⟨0x2000, 0x200A⟩,
  ⟨0x2028, 0x2029⟩, ⟨0x202F, 0x202F⟩, ⟨0x205F, 0x205F⟩, ⟨0x3000, 0x3000⟩
]

/-- Characters that only separate words. -/
def isWhiteSpace (c : Char) : Bool :=
  whiteSpaceTable.contains c.toNat

/-- Drop the white space at the start of a text. -/
def trimStart : List Char → List Char :=
  List.dropWhile isWhiteSpace

/-- Drop the white space at both ends of a text. -/
def trim (text : String) : String :=
  String.ofList (trimStart (trimStart text.toList).reverse).reverse

end SqlAssist.Text
