/-!
# Searching and cutting texts

Texts are searched as lists of characters.
-/

namespace BroadcastGraphics
namespace Text

/-- A text occurs in another one. -/
def occursIn (part : List Char) : List Char -> Bool
  | [] => part.isEmpty
  | character :: rest => part.isPrefixOf (character :: rest) || occursIn part rest

/-- A text occurs in another one. -/
def contains (whole part : String) : Bool :=
  occursIn part.toList whole.toList

/-- A text ends in another one. -/
def endsIn (whole part : String) : Bool :=
  part.toList.isSuffixOf whole.toList

/-- Put a character at the front of the first part. -/
def consToFirst (character : Char) : List (List Char) -> List (List Char)
  | [] => [[character]]
  | first :: rest => (character :: first) :: rest

/-- The parts of a text between separators; there is one part more than there are separators. -/
def splitAt (separator : Char) : List Char -> List (List Char)
  | [] => [[]]
  | character :: rest =>
      if character == separator then [] :: splitAt separator rest
      else consToFirst character (splitAt separator rest)

/-- The parts of a text between separators. -/
def split (separator : Char) (text : String) : List String :=
  (splitAt separator text.toList).map String.ofList

/-- Characters with every end of a line as one character: two that make one end are one. -/
def plainLineEnds : List Char -> List Char
  | '\r' :: '\n' :: rest => '\n' :: plainLineEnds rest
  | '\r' :: rest => '\n' :: plainLineEnds rest
  | character :: rest => character :: plainLineEnds rest
  | [] => []

/-- A text with every end of a line as one character. -/
def withPlainLineEnds (text : String) : String :=
  String.ofList (plainLineEnds text.toList)

/-- Splitting leaves at least one part. -/
theorem splitAt_ne_nil (separator : Char) (text : List Char) : splitAt separator text ≠ [] := by
  cases text with
  | nil => simp [splitAt]
  | cons character rest =>
    unfold splitAt
    split
    · simp
    · cases splitAt separator rest <;> simp [consToFirst]

/-- Parts without separators are found again. -/
theorem splitAt_append (separator : Char) (part rest : List Char) (free : separator ∉ part) :
    splitAt separator (part ++ separator :: rest) = part :: splitAt separator rest := by
  induction part with
  | nil => simp [splitAt]
  | cons character part ih =>
    simp only [List.mem_cons, not_or] at free
    simp [splitAt, ih free.2, consToFirst, Ne.symm free.1]

end Text
end BroadcastGraphics
