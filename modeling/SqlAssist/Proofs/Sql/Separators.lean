/-
# Statements that are cut too finely

A buffer is cut at every semicolon, also at those inside literals, comments and quoted names. Which
semicolons really separate is not known here, so the results are for every choice of them. The
statements of any choice are made of whole pieces of the fine cut, and the first of these pieces
keeps the token that decides. The finer cut can therefore make a buffer graver, but never lighter.
-/

import Mathlib.Data.List.TakeWhile
import SqlAssist.Proofs.Sql.Statement

namespace SqlAssist.Sql.StatementKind

variable {sql : String} {real : Nat → Bool} {statement tokens : List Token}

theorem lead?_eq_find? (kinds : List TokenKind) :
    lead? kinds = kinds.find? (· ≠ .parenOpen) := by
  rw [List.find?_eq_head?_dropWhile_not, lead?]
  simp

/-- The token that decides is not lost to the finer cut: what stands after a semicolon can only
make the whole graver. -/
theorem ofLead_le_ofTokens {kinds : List TokenKind} {lead : TokenKind}
    (leads : lead? kinds = some lead) (notEmpty : lead ≠ .semicolon) :
    ofLead lead ≤ ofTokens kinds := by
  by_cases separated : .semicolon ∈ kinds
  · obtain ⟨first, rest, rfl, single⟩ := List.eq_append_cons_of_mem separated
    rw [ofTokens_append_semicolon, ofTokens_of_notMem single]
    rw [lead?_eq_find?, List.find?_append, ← lead?_eq_find?, ← lead?_eq_find?,
      lead?_cons_of_ne (by decide)] at leads
    -- The decisive token stands before the first semicolon, or else it is that semicolon.
    cases found : lead? first with
    | none =>
        rw [found, Option.none_or, Option.some_inj] at leads
        exact absurd leads.symm notEmpty
    | some token =>
        rw [found, Option.some_or, Option.some_inj] at leads
        rw [← leads]
        exact le_max_left _ _
  · rw [ofTokens_of_notMem separated, leads]
    exact le_refl _

/-- Every statement of a coarser cut is at most as grave as the whole. -/
theorem ofTokens_le_of_mem_splitOnP {isReal : Token → Bool}
    (separates : ∀ token, isReal token = true → token.kind = .semicolon)
    (member : statement ∈ tokens.splitOnP isReal) :
    ofTokens (statement.map (·.kind)) ≤ ofTokens (tokens.map (·.kind)) := by
  induction tokens using splitting isReal with
  | whole tokens without =>
      rw [List.splitOnP_eq_singleton without, List.mem_singleton] at member
      rw [member]
  | cut first separator rest without isSeparator ih =>
      rw [List.splitOnP_append_cons_of_forall_mem without separator isSeparator] at member
      rw [List.map_append, List.map_cons, separates separator isSeparator,
        ofTokens_append_semicolon]
      rcases List.mem_cons.mp member with rfl | later
      · exact le_max_left _ _
      · exact le_trans (ih later) (le_max_right _ _)

/-- The statements of a buffer if only the semicolons at these bytes separate. -/
def statementsAt (real : Nat → Bool) (sql : String) : List (List Token) :=
  (tokenize sql).splitOnP fun token => token.kind = .semicolon && real token.start

/-- **Cutting too finely misses nothing.** Whichever semicolons really separate, the kind that the
first token of a statement between them decides is at most the kind of the buffer. So a buffer calls
for a refresh if one of these statements begins with a keyword of schema changes, or with anything
that is no keyword. -/
theorem ofLead_le_classify {lead : Token} (member : statement ∈ statementsAt real sql)
    (leads : statement.find? (·.kind ≠ .parenOpen) = some lead)
    (notEmpty : lead.kind ≠ .semicolon) :
    ofLead lead.kind ≤ classify sql ∧
      ((∀ keyword, lead.kind = .keyword keyword → keyword.role = .schemaChange) →
        RefreshTrigger.ddlOnly.shouldRefresh sql = true) := by
  have decides : lead? (statement.map (·.kind)) = some lead.kind := by
    rw [lead?_eq_find?, List.find?_map]
    simp only [Function.comp_def, leads, Option.map_some]
  have below : ofLead lead.kind ≤ classify sql := by
    refine le_trans (ofLead_le_ofTokens decides notEmpty) (ofTokens_le_of_mem_splitOnP ?_ member)
    intro token isReal
    simpa using (Bool.and_eq_true_iff.mp isReal).1
  refine ⟨below, fun unknown => ?_⟩
  rw [RefreshTrigger.shouldRefresh, mayChangeSchema_iff]
  refine le_trans ?_ below
  cases kind : lead.kind with
  | keyword keyword =>
      simp only [ofLead, unknown keyword kind]
      decide
  | _ => exact le_refl _

/-- A semicolon inside a quoted name does not hide the statement after it. -/
theorem ofLead_le_classify_quoted :
    [⟨.keyword .drop, 4, 8⟩] ∈ statementsAt (· == 3) "[;];drop" ∧
      ddl ≤ classify "[;];drop" ∧ RefreshTrigger.ddlOnly.shouldRefresh "[;];drop" = true := by
  have read : tokenize "[;];drop" = [⟨.other '[', 0, 1⟩, ⟨.semicolon, 1, 2⟩, ⟨.other ']', 2, 3⟩,
      ⟨.semicolon, 3, 4⟩, ⟨.keyword .drop, 4, 8⟩] := by
    have text : "[;];drop".toList = '[' :: ';' :: ']' :: ';' :: ("drop".toList ++ []) := by decide
    have word : "drop".toList.all isIdentChar = true := by decide +kernel
    rw [tokenize, text, Token.scan_symbol (by decide +kernel) (by decide +kernel),
      Token.scan_symbol (by decide +kernel) (by decide +kernel),
      Token.scan_symbol (by decide +kernel) (by decide +kernel),
      Token.scan_symbol (by decide +kernel) (by decide +kernel),
      Token.scan_word (by decide) (List.all_eq_true.mp word) (by simp), Token.scan_nil]
    decide +kernel
  have cut : statementsAt (· == 3) "[;];drop" =
      [[⟨.other '[', 0, 1⟩, ⟨.semicolon, 1, 2⟩, ⟨.other ']', 2, 3⟩],
        [⟨.keyword .drop, 4, 8⟩]] := by
    rw [statementsAt, read]
    decide
  have member : [⟨.keyword .drop, 4, 8⟩] ∈ statementsAt (· == 3) "[;];drop" := by
    rw [cut]
    decide
  have leads : [⟨.keyword .drop, 4, 8⟩].find? (fun token : Token => token.kind ≠ .parenOpen) =
      some ⟨.keyword .drop, 4, 8⟩ := by decide
  obtain ⟨below, refreshes⟩ := ofLead_le_classify member leads (by decide)
  refine ⟨member, below, refreshes ?_⟩
  rintro keyword ⟨⟩
  rfl

end SqlAssist.Sql.StatementKind
