/-
# The kind of a buffer, read from its text

A buffer is classified from its tokens. The same kind can be read from the text alone: it is the
gravest kind of the pieces between semicolons, and the kind of a piece is decided by what follows
its leading white space and opening parentheses. Neither the order of the pieces nor how often one
of them stands there matters.
-/

import Mathlib.Order.Lattice
import SqlAssist.Proofs.Sql.Token
import SqlAssist.Sql.Statement

namespace SqlAssist.Sql

/-! ## The order of gravity -/

namespace StatementKind

variable {kind bound : StatementKind} {kinds more : List StatementKind}

theorem gravity_injective : Function.Injective gravity := by
  intro first second same
  cases first <;> cases second <;> first | rfl | cases same

instance : LinearOrder StatementKind where
  le_refl kind := Nat.le_refl kind.gravity
  le_trans _ _ _ first second := Nat.le_trans first second
  le_antisymm _ _ below above := gravity_injective (Nat.le_antisymm below above)
  le_total first second := Nat.le_total first.gravity second.gravity
  toDecidableLE := inferInstance

theorem query_le (kind : StatementKind) : query ≤ kind :=
  Nat.zero_le kind.gravity

/-- The schema may change from the kind on that is not recognised. -/
theorem mayChangeSchema_iff : kind.mayChangeSchema = true ↔ other ≤ kind := by
  cases kind <;> decide

@[simp]
theorem gravest_nil : gravest [] = query :=
  rfl

@[simp]
theorem gravest_cons : gravest (kind :: kinds) = max kind (gravest kinds) :=
  rfl

/-- Where nothing is found, a query may stand in. -/
theorem gravest_filterMap_cons {α : Type} (kind? : α → Option StatementKind) (item : α)
    (rest : List α) :
    gravest ((item :: rest).filterMap kind?) =
      max ((kind? item).getD query) (gravest (rest.filterMap kind?)) := by
  cases found : kind? item with
  | none => simp [found, query_le]
  | some kind => simp [found]

theorem gravest_append : gravest (kinds ++ more) = max (gravest kinds) (gravest more) := by
  induction kinds with
  | nil => exact (max_eq_right (query_le _)).symm
  | cons kind kinds ih => simp only [List.cons_append, gravest_cons, ih, max_assoc]

theorem gravest_le_iff : gravest kinds ≤ bound ↔ ∀ kind ∈ kinds, kind ≤ bound := by
  induction kinds with
  | nil => simp [query_le]
  | cons kind kinds ih => simp [ih]

/-- Only which kinds there are decides which is the gravest. -/
theorem gravest_congr (same : ∀ kind, kind ∈ kinds ↔ kind ∈ more) :
    gravest kinds = gravest more := by
  refine eq_of_forall_ge_iff fun bound => ?_
  simp only [gravest_le_iff, same]

theorem gravest_eq_max? (kinds : List StatementKind) : gravest kinds = kinds.max?.getD query := by
  induction kinds with
  | nil => rfl
  | cons kind kinds ih =>
      rw [gravest_cons, ih, List.max?_cons]
      cases kinds.max? with
      | none => exact max_eq_left (query_le kind)
      | some most => rfl

end StatementKind

/-! ## Cutting at separators -/

/-- Every list is cut at its first separator, or has none. -/
@[elab_as_elim]
theorem splitting {α : Type} {motive : List α → Prop} (isSeparator : α → Bool) (items : List α)
    (whole : ∀ items, (∀ item ∈ items, isSeparator item = false) → motive items)
    (cut : ∀ first separator rest, (∀ item ∈ first, isSeparator item = false) →
      isSeparator separator = true → motive rest → motive (first ++ separator :: rest)) :
    motive items := by
  induction size : items.length using Nat.strong_induction_on generalizing items with
  | _ n ih =>
      cases found : items.find? isSeparator with
      | none => exact whole items (by simpa using found)
      | some separator =>
          obtain ⟨holds, first, rest, rfl, before⟩ := List.find?_eq_some_iff_append.mp found
          refine cut first separator rest (by simpa using before) holds (ih rest.length ?_ rest rfl)
          rw [← size, List.length_append, List.length_cons]
          omega

namespace StatementKind

variable {tokens : List TokenKind}

theorem splitStatements_eq_splitOn (tokens : List TokenKind) :
    splitStatements tokens = tokens.splitOn .semicolon := by
  induction tokens with
  | nil => rfl
  | cons token rest ih =>
      rw [splitStatements, List.splitOn_cons_eq_if_modifyHead, ih]
      obtain ⟨statement, more, split⟩ := List.exists_cons_of_ne_nil
        (List.splitOn_ne_nil .semicolon rest)
      simp [split]

theorem lead?_cons_of_ne {token : TokenKind} (leads : token ≠ .parenOpen)
    (rest : List TokenKind) : lead? (token :: rest) = some token := by
  simp [lead?, leads]

/-- The kind of a sequence is the graver of the kinds on both sides of a semicolon. -/
theorem ofTokens_append_semicolon (first second : List TokenKind) :
    ofTokens (first ++ .semicolon :: second) = max (ofTokens first) (ofTokens second) := by
  simp only [ofTokens, splitStatements_eq_splitOn, List.splitOn_append_cons_self,
    List.filterMap_append, List.map_append, gravest_append]

/-- A sequence without a semicolon is one statement. -/
theorem ofTokens_of_notMem (single : TokenKind.semicolon ∉ tokens) :
    ofTokens tokens = ((lead? tokens).map ofLead).getD query := by
  simp only [ofTokens, splitStatements_eq_splitOn, List.splitOn_eq_singleton single]
  cases found : lead? tokens with
  | none => simp [found]
  | some token => simp [found, query_le]

end StatementKind

/-! ## What the text says -/

namespace Token

variable {text : List Char}

/-- What the tokens of a text are, wherever it begins. -/
def kinds (text : List Char) : List TokenKind :=
  (scan 0 text).map (·.kind)

theorem map_kind_scan (position : Nat) (text : List Char) :
    (scan position text).map (·.kind) = kinds text := by
  have moved := scan_add text 0 position
  rw [Nat.zero_add] at moved
  simp [moved, kinds, shift]

@[simp]
theorem kinds_nil : kinds [] = [] := by
  simp [kinds]

theorem kinds_blank {c : Char} (blank : Text.isWhiteSpace c = true) (rest : List Char) :
    kinds (c :: rest) = kinds rest := by
  rw [kinds, scan_blank blank, map_kind_scan]

theorem kinds_symbol {c : Char} (notBlank : Text.isWhiteSpace c = false)
    (notIdent : isIdentChar c = false) (rest : List Char) :
    kinds (c :: rest) = symbolKind c :: kinds rest := by
  rw [kinds, scan_symbol notBlank notIdent, List.map_cons, map_kind_scan]

theorem kinds_word {word rest : List Char} (nonEmpty : word ≠ [])
    (isWord : ∀ c ∈ word, isIdentChar c = true)
    (ends : ∀ d, rest.head? = some d → isIdentChar d = false) :
    kinds (word ++ rest) = wordKind (String.ofList word) :: kinds rest := by
  rw [kinds, scan_word nonEmpty isWord ends, List.map_cons, map_kind_scan]

theorem isIdentChar_semicolon : isIdentChar ';' = false := by
  decide +kernel

/-- A semicolon stands alone, whatever is around it. -/
theorem kinds_append_semicolon (first second : List Char) :
    kinds (first ++ ';' :: second) = kinds first ++ .semicolon :: kinds second := by
  have apart : Apart first (';' :: second) := .of_head (by simp [isIdentChar_semicolon])
  have notBlank : Text.isWhiteSpace ';' = false := by decide +kernel
  rw [kinds, scan_append apart, List.map_append, map_kind_scan, map_kind_scan,
    kinds_symbol notBlank isIdentChar_semicolon]
  rfl

theorem symbolKind_eq_semicolon_iff {c : Char} : symbolKind c = .semicolon ↔ c = ';' := by
  unfold symbolKind
  split <;> simp_all

theorem symbolKind_eq_parenOpen_iff {c : Char} : symbolKind c = .parenOpen ↔ c = '(' := by
  unfold symbolKind
  split <;> simp_all

theorem wordKind_ne {kind : TokenKind} (notWord : kind.isWord = false) (word : String) :
    wordKind word ≠ kind := by
  rintro rfl
  rw [isWord_wordKind] at notWord
  cases notWord

/-- Where there is no semicolon, none is read. -/
theorem semicolon_notMem_kinds (without : ';' ∉ text) : TokenKind.semicolon ∉ kinds text := by
  induction text using reading with
  | nil => simp
  | blank c rest isBlank ih =>
      rw [kinds_blank isBlank]
      exact ih (List.not_mem_of_not_mem_cons without)
  | word word rest nonEmpty isWord ends ih =>
      rw [kinds_word nonEmpty isWord ends, List.mem_cons, not_or]
      exact ⟨(wordKind_ne rfl _).symm,
        ih fun member => without (List.mem_append_right word member)⟩
  | symbol c rest notBlank notIdent ih =>
      rw [List.mem_cons, not_or, eq_comm] at without
      rw [kinds_symbol notBlank notIdent, List.mem_cons, not_or, eq_comm,
        symbolKind_eq_semicolon_iff]
      exact ⟨without.1, ih without.2⟩

end Token

namespace StatementKind

/-- The kind of a statement that begins with this word. -/
def ofWord (word : List Char) : StatementKind :=
  match (Keyword.ofLower? (Text.foldCase (String.ofList word))).map Keyword.role with
  | some .query => query
  | some .schemaChange => ddl
  | some .dataChange => dml
  | none => other

/-- White space and opening parentheses before a statement do not tell what it does. -/
def isOpening (c : Char) : Bool :=
  Text.isWhiteSpace c || c == '('

/-- The kind of the text between two semicolons, if there is a statement in it. -/
def ofPiece? (piece : List Char) : Option StatementKind :=
  match piece.dropWhile isOpening with
  | [] => none
  | c :: rest => some (if isIdentChar c then ofWord ((c :: rest).takeWhile isIdentChar) else other)

theorem isOpening_eq_false_of_isIdentChar {c : Char} (ident : isIdentChar c = true) :
    isOpening c = false := by
  rw [← Bool.not_eq_true]
  intro opening
  rcases Bool.or_eq_true_iff.mp opening with blank | bracket
  · rw [isIdentChar_eq_false_of_isWhiteSpace blank] at ident
    cases ident
  · rw [eq_of_beq bracket] at ident
    exact absurd ident (by decide +kernel)

theorem ofLead_wordKind (word : List Char) :
    ofLead (Token.wordKind (String.ofList word)) = ofWord word := by
  unfold Token.wordKind ofWord
  cases Keyword.ofLower? (Text.foldCase (String.ofList word)) with
  | none => rfl
  | some keyword =>
      simp only [ofLead, Option.map_some]
      cases keyword.role <;> rfl

theorem ofLead_symbolKind (c : Char) : ofLead (Token.symbolKind c) = other := by
  unfold Token.symbolKind
  split <;> rfl

/-- A piece that begins with a word is of the kind of that word. -/
theorem ofPiece?_word {word rest : List Char} (nonEmpty : word ≠ [])
    (isWord : ∀ c ∈ word, isIdentChar c = true)
    (ends : ∀ d, rest.head? = some d → isIdentChar d = false) :
    ofPiece? (word ++ rest) = some (ofWord word) := by
  have whole : (word ++ rest).takeWhile isIdentChar = word := by
    rw [List.takeWhile_append_of_pos isWord, (takeWhile_and_dropWhile_of_ends ends).1,
      List.append_nil]
  obtain ⟨c, tail, rfl⟩ := List.exists_cons_of_ne_nil nonEmpty
  have ident : isIdentChar c = true := isWord c List.mem_cons_self
  rw [List.cons_append] at whole ⊢
  simp only [ofPiece?, List.dropWhile_cons, isOpening_eq_false_of_isIdentChar ident,
    Bool.false_eq_true, if_false, ident, if_true, whole]

/-- The token that decides is found after the same characters as the word that decides. -/
theorem map_ofLead_lead?_kinds (piece : List Char) :
    (lead? (Token.kinds piece)).map ofLead = ofPiece? piece := by
  induction piece using Token.reading with
  | nil => simp [lead?, ofPiece?]
  | blank c rest isBlank ih =>
      rw [Token.kinds_blank isBlank, ih]
      simp [ofPiece?, isOpening, isBlank]
  | word word rest nonEmpty isWord ends ih =>
      rw [Token.kinds_word nonEmpty isWord ends, lead?_cons_of_ne (Token.wordKind_ne rfl _),
        Option.map_some, ofLead_wordKind, ofPiece?_word nonEmpty isWord ends]
  | symbol c rest notBlank notIdent ih =>
      rw [Token.kinds_symbol notBlank notIdent]
      by_cases opens : c = '('
      · subst opens
        simpa [lead?, ofPiece?, isOpening, Token.symbolKind] using ih
      · rw [lead?_cons_of_ne (mt Token.symbolKind_eq_parenOpen_iff.mp opens), Option.map_some,
          ofLead_symbolKind]
        simp [ofPiece?, isOpening, notBlank, opens, notIdent]

theorem ofTokens_kinds_of_notMem {piece : List Char} (without : ';' ∉ piece) :
    ofTokens (Token.kinds piece) = (ofPiece? piece).getD query := by
  rw [ofTokens_of_notMem (Token.semicolon_notMem_kinds without), map_ofLead_lead?_kinds]

/-- The kind of a text is the gravest kind of its pieces. -/
theorem ofTokens_kinds (text : List Char) :
    ofTokens (Token.kinds text) = gravest ((text.splitOn ';').filterMap ofPiece?) := by
  induction text using splitting (· == ';') with
  | whole text without =>
      have single : ';' ∉ text := by simpa using without ';'
      rw [ofTokens_kinds_of_notMem single, List.splitOn_eq_singleton single,
        gravest_filterMap_cons, List.filterMap_nil, gravest_nil, max_eq_left (query_le _)]
  | cut first separator rest without isSemicolon ih =>
      have single : ';' ∉ first := by simpa using without ';'
      obtain rfl : separator = ';' := eq_of_beq isSemicolon
      rw [Token.kinds_append_semicolon, ofTokens_append_semicolon, ih,
        ofTokens_kinds_of_notMem single, List.splitOn_append_cons_self_of_not_mem single,
        gravest_filterMap_cons]

theorem classify_eq_ofTokens_kinds (sql : String) :
    classify sql = ofTokens (Token.kinds sql.toList) :=
  rfl

theorem classify_append_semicolon (first second : String) :
    classify (first ++ ";" ++ second) = max (classify first) (classify second) := by
  have text : (first ++ ";" ++ second).toList = first.toList ++ ';' :: second.toList := by
    simp
  rw [classify_eq_ofTokens_kinds, text, Token.kinds_append_semicolon, ofTokens_append_semicolon]
  rfl

/-- The kind of statements in a row is the gravest of their kinds. -/
theorem classify_intercalate (statements : List String) :
    classify (";".intercalate statements) = gravest (statements.map classify) := by
  induction statements with
  | nil =>
      rw [String.intercalate_nil, classify_eq_ofTokens_kinds, String.toList_empty, Token.kinds_nil]
      rfl
  | cons statement rest ih =>
      cases rest with
      | nil => simp [query_le]
      | cons next rest =>
          rw [String.intercalate_cons_cons, classify_append_semicolon, ih]
          rfl

/-- **Classification is what the text says.** The kind of a buffer is the gravest kind of the pieces
between its semicolons that hold a statement, and a query if none does. So the kind of two buffers
in a row is the graver of their kinds, the order and the repetition of statements do not matter, and
a buffer that calls for a refresh still does when a statement is appended. -/
theorem classify_eq_max_pieces :
    (∀ sql : String,
      classify sql = ((sql.toList.splitOn ';').filterMap ofPiece?).max?.getD query) ∧
    (∀ first second : String,
      classify (first ++ ";" ++ second) = max (classify first) (classify second)) ∧
    (∀ statements others : List String,
      (∀ statement, statement ∈ statements ↔ statement ∈ others) →
        classify (";".intercalate statements) = classify (";".intercalate others)) ∧
    ∀ first second : String, RefreshTrigger.ddlOnly.shouldRefresh first = true →
      RefreshTrigger.ddlOnly.shouldRefresh (first ++ ";" ++ second) = true := by
  refine ⟨?_, classify_append_semicolon, ?_, ?_⟩
  · intro sql
    rw [classify_eq_ofTokens_kinds, ofTokens_kinds, gravest_eq_max?]
  · intro statements others same
    rw [classify_intercalate, classify_intercalate]
    refine gravest_congr fun kind => ?_
    simp only [List.mem_map, same]
  · intro first second refreshes
    simp only [RefreshTrigger.shouldRefresh, mayChangeSchema_iff] at refreshes ⊢
    rw [classify_append_semicolon]
    exact le_trans refreshes (le_max_left _ _)

end StatementKind

end SqlAssist.Sql
