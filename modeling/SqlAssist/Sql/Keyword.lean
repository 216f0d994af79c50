/-
# Leading keywords

The words that tell, at the start of a statement, what the statement does.
-/

namespace SqlAssist.Sql

/-- A word that can open a statement of a known kind. -/
inductive Keyword where
  | select | withQuery | showObjects | explain | describe | desc | values | table
  | create | alter | drop | rename | truncate | comment | grant | revoke
  | insert | update | delete | merge | replace | copy | call
  deriving DecidableEq, Repr

namespace Keyword

/-- All leading keywords. -/
def all : List Keyword :=
  [select, withQuery, showObjects, explain, describe, desc, values, table,
   create, alter, drop, rename, truncate, comment, grant, revoke,
   insert, update, delete, merge, replace, copy, call]

/-- The keyword in lower case. -/
def spelling : Keyword → String
  | select => "select"
  | withQuery => "with"
  | showObjects => "show"
  | explain => "explain"
  | describe => "describe"
  | desc => "desc"
  | values => "values"
  | table => "table"
  | create => "create"
  | alter => "alter"
  | drop => "drop"
  | rename => "rename"
  | truncate => "truncate"
  | comment => "comment"
  | grant => "grant"
  | revoke => "revoke"
  | insert => "insert"
  | update => "update"
  | delete => "delete"
  | merge => "merge"
  | replace => "replace"
  | copy => "copy"
  | call => "call"

/-- The keyword with this lower-case spelling. A word with a capital has none. -/
def ofLower? (word : String) : Option Keyword :=
  all.find? (fun keyword => keyword.spelling == word)

/-- What a statement led by a keyword does. -/
inductive Role where
  /-- Reads only. -/
  | query
  /-- Changes tables, other schema objects, or rights on them. -/
  | schemaChange
  /-- Changes rows. -/
  | dataChange
  deriving DecidableEq, Repr

/-- The role of a keyword at the start of a statement. -/
def role : Keyword → Role
  | select | withQuery | showObjects | explain | describe | desc | values | table => .query
  | create | alter | drop | rename | truncate | comment | grant | revoke => .schemaChange
  | insert | update | delete | merge | replace | copy | call => .dataChange

/-- Every keyword is listed. -/
theorem mem_all (keyword : Keyword) : keyword ∈ all := by
  cases keyword <;> decide

/-- Every keyword is found by its spelling. -/
theorem ofLower?_spelling (keyword : Keyword) : ofLower? keyword.spelling = some keyword := by
  have found : ∀ listed ∈ all, ofLower? listed.spelling = some listed := by decide +kernel
  exact found keyword keyword.mem_all

end Keyword

end SqlAssist.Sql
