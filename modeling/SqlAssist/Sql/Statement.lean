/-
# Kinds of statements

A buffer is cut into statements at every semicolon, and the first token of a statement that is
no opening parenthesis decides its kind. Since literals and comments are not recognised, the cut
may be too fine; the kind of a buffer is the gravest kind found, so a schema change is never
missed for it.
-/

import SqlAssist.Sql.Token

namespace SqlAssist.Sql

/-- What running a statement may do, from harmless to grave. -/
inductive StatementKind where
  /-- Reads only. -/
  | query
  /-- Changes rows. -/
  | dml
  /-- Not recognised, so it may do anything. -/
  | other
  /-- Changes the schema. -/
  | ddl
  deriving DecidableEq, Repr

namespace StatementKind

/-- The place of a kind in the order of gravity. -/
def gravity : StatementKind → Nat
  | query => 0
  | dml => 1
  | other => 2
  | ddl => 3

/-- Kinds are compared by gravity. -/
instance : LE StatementKind where
  le a b := a.gravity ≤ b.gravity

instance (a b : StatementKind) : Decidable (a ≤ b) :=
  inferInstanceAs (Decidable (a.gravity ≤ b.gravity))

/-- The graver of two kinds. -/
instance : Max StatementKind where
  max a b := if a ≤ b then b else a

/-- The kind of a statement that begins with this token. -/
def ofLead : TokenKind → StatementKind
  | .keyword keyword =>
    match keyword.role with
    | .query => query
    | .schemaChange => ddl
    | .dataChange => dml
  | _ => other

/-- Cut tokens into statements at the semicolons. -/
def splitStatements : List TokenKind → List (List TokenKind)
  | [] => [[]]
  | token :: rest =>
    if token = .semicolon then [] :: splitStatements rest
    else
      match splitStatements rest with
      | [] => [[token]]
      | statement :: more => (token :: statement) :: more

/-- The token that decides a statement's kind. -/
def lead? (statement : List TokenKind) : Option TokenKind :=
  (statement.dropWhile (· = .parenOpen)).head?

/-- The gravest of several kinds; a buffer without statements is a query. -/
def gravest (kinds : List StatementKind) : StatementKind :=
  kinds.foldr max query

/-- The kind of a token sequence. -/
def ofTokens (tokens : List TokenKind) : StatementKind :=
  gravest ((splitStatements tokens).filterMap lead? |>.map ofLead)

/-- The kind of a buffer of statements. -/
def classify (sql : String) : StatementKind :=
  ofTokens ((tokenize sql).map (·.kind))

/-- Whether tables may differ after a statement of this kind. -/
def mayChangeSchema : StatementKind → Bool
  | query | dml => false
  | other | ddl => true

end StatementKind

/-- Which statements without a result set make the schema be read again. -/
inductive RefreshTrigger where
  | always
  | ddlOnly
  deriving DecidableEq, Repr

/-- Whether running `sql`, which returned no result set, calls for a refresh. -/
def RefreshTrigger.shouldRefresh (trigger : RefreshTrigger) (sql : String) : Bool :=
  match trigger with
  | always => true
  | ddlOnly => (StatementKind.classify sql).mayChangeSchema

end SqlAssist.Sql
