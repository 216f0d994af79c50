/-
# Tokens

A statement is read as words and single characters; white space only separates. The scan is
lenient: it knows neither string literals nor comments, so their contents are tokens like any
other. Every token carries the bytes it covers.
-/

import SqlAssist.Sql.Identifier
import SqlAssist.Sql.Keyword
import SqlAssist.Text.LowerCase
import SqlAssist.Text.Offset

namespace SqlAssist.Sql

/-- What a token is. -/
inductive TokenKind where
  /-- A word that is no leading keyword, as written. -/
  | ident (text : String)
  /-- A leading keyword, in any case. -/
  | keyword (keyword : Keyword)
  | semicolon
  | dot
  | parenOpen
  | parenClose
  /-- Any other character. -/
  | other (c : Char)
  deriving DecidableEq, Repr

/-- A token and the bytes from `start` up to, but without, `stop` that it covers. -/
structure Token where
  kind : TokenKind
  start : Nat
  stop : Nat
  deriving DecidableEq, Repr

namespace Token

/-- The kind of a word: a keyword if its folded form spells one. -/
def wordKind (word : String) : TokenKind :=
  match Keyword.ofLower? (Text.foldCase word) with
  | some keyword => .keyword keyword
  | none => .ident word

/-- The kind of a character that is part of no word. -/
def symbolKind (c : Char) : TokenKind :=
  match c with
  | ';' => .semicolon
  | '.' => .dot
  | '(' => .parenOpen
  | ')' => .parenClose
  | c => .other c

/-- The tokens of a text that begins at byte `position` of its buffer. -/
def scan (position : Nat) : List Char → List Token
  | [] => []
  | c :: rest =>
    if Text.isWhiteSpace c then
      scan (position + c.utf8Size) rest
    else if isIdentChar c then
      let word := c :: rest.takeWhile isIdentChar
      let stop := position + Text.byteLength word
      ⟨wordKind (String.ofList word), position, stop⟩ ::
        scan stop (rest.dropWhile isIdentChar)
    else
      let stop := position + c.utf8Size
      ⟨symbolKind c, position, stop⟩ :: scan stop rest
termination_by text => text.length
decreasing_by
  · simp
  · have := (List.dropWhile_sublist isIdentChar (l := rest)).length_le
    simp only [List.length_cons]
    omega
  · simp

end Token

/-- The tokens of a statement or of several. -/
def tokenize (sql : String) : List Token :=
  Token.scan 0 sql.toList

end SqlAssist.Sql
