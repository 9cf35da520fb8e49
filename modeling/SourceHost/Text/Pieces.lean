/-!
# Pieces of a text

A text can be taken apart at a character that separates its pieces, or into the words between
blanks.  `splitAt` keeps empty pieces; `words` does not know any.
-/

set_option autoImplicit false

namespace SourceHost

/-- The pieces of a text between separators. -/
def splitAt (separator : Char) : List Char → List (List Char)
  | [] => [[]]
  | c :: rest =>
    if c = separator then [] :: splitAt separator rest
    else match splitAt separator rest with
      | [] => [[c]]
      | part :: parts => (c :: part) :: parts

/-- The words of a text, with any number of blanks between them. -/
def words (s : List Char) : List (List Char) :=
  let pieces := s.foldr (fun c found ↦
    if c.isWhitespace then [] :: found
    else match found with
      | word :: rest => (c :: word) :: rest
      | [] => [[c]]) [[]]
  pieces.filter (!·.isEmpty)

end SourceHost
