/-
# The word at the cursor

Completion extends the word that ends at the cursor. It is found by walking back from the cursor
over the characters of words, so text after the cursor has no say.
-/

import SqlAssist.Error.Argument
import SqlAssist.Sql.Identifier
import SqlAssist.Text.Offset

namespace SqlAssist.Sql

/-- The text up to a cursor, cut where its last word begins. -/
structure PartialToken where
  /-- All that stands before the word. -/
  lead : String
  /-- The word, empty if the cursor follows no character of a word. -/
  text : String
  deriving DecidableEq, Repr

namespace PartialToken

/-- The byte of the buffer at which the word begins. -/
def start (token : PartialToken) : Nat :=
  Text.byteLength token.lead.toList

/-- Whether there is no word to extend. -/
def isEmpty (token : PartialToken) : Bool :=
  token.text == ""

/-- Whether the word follows a dot, as a name after its qualifier does. -/
def isQualified (token : PartialToken) : Bool :=
  token.lead.toList.getLast? == some '.'

/-- Cut off the last word of a text. -/
def ofText (text : List Char) : PartialToken where
  lead := String.ofList (text.reverse.dropWhile isIdentChar).reverse
  text := String.ofList (text.reverse.takeWhile isIdentChar).reverse

/-- The cut loses nothing. -/
theorem lead_append_text (text : List Char) :
    (ofText text).lead.toList ++ (ofText text).text.toList = text := by
  simp only [ofText, String.toList_ofList]
  rw [← List.reverse_append, List.takeWhile_append_dropWhile, List.reverse_reverse]

/-- The word is made of characters of words. -/
theorem isIdentChar_of_mem_text {text : List Char} {c : Char}
    (inWord : c ∈ (ofText text).text.toList) : isIdentChar c = true := by
  have taken : c ∈ text.reverse.takeWhile isIdentChar := by simpa [ofText] using inWord
  exact List.all_eq_true.mp List.all_takeWhile c taken

/-- The word cannot be extended to the left. -/
theorem not_isIdentChar_of_lead {text : List Char} {c : Char}
    (last : (ofText text).lead.toList.getLast? = some c) : isIdentChar c = false := by
  have first : (text.reverse.dropWhile isIdentChar).head? = some c := by
    simpa [ofText] using last
  have stopped := List.head?_dropWhile_not isIdentChar text.reverse
  simpa [first] using stopped

/-- The partial token of a buffer at a byte offset. A cursor past the end is told apart from one
inside a character. -/
def atCursor (buffer : String) (cursor : Nat) : Except ArgumentError PartialToken :=
  let size := Text.byteLength buffer.toList
  if size < cursor then .error (.cursorPastEnd cursor size)
  else
    match Text.takeBytes? cursor buffer.toList with
    | none => .error (.cursorInsideCharacter cursor)
    | some before => .ok (ofText before)

end PartialToken

end SqlAssist.Sql
