import BroadcastGraphics.Text.Ranges

/-!
# Blank characters

Two classes of white space are in use.  Program text is trimmed of every blank, information
separators included; numbers written as text are trimmed only of the characters that have the
standard White_Space property, which leaves the information separators out.
-/

namespace BroadcastGraphics
namespace Text

/-- The White_Space property of the Unicode standard. -/
def isWhiteSpace (character : Char) : Bool :=
  inRanges [(0x9, 0xd), (0x20, 0x20), (0x85, 0x85), (0xa0, 0xa0), (0x1680, 0x1680),
    (0x2000, 0x200a), (0x2028, 0x2029), (0x202f, 0x202f), (0x205f, 0x205f), (0x3000, 0x3000)]
    character

/-- A blank is white space or one of the four information separators. -/
def isBlank (character : Char) : Bool :=
  isWhiteSpace character || inRanges [(0x1c, 0x1f)] character

/-- Drop the characters of a class from both ends of a text. -/
def trimBy (drop : Char -> Bool) (text : List Char) : List Char :=
  ((text.dropWhile drop).reverse.dropWhile drop).reverse

/-- Every white-space character is a blank. -/
theorem isBlank_of_isWhiteSpace {character : Char} (white : isWhiteSpace character = true) :
    isBlank character = true := by
  simp [isBlank, white]

end Text
end BroadcastGraphics
