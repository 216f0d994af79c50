/-
# What tokens cover

Every token is read from a part of its text, a whole word or one other character, and the spans of
the tokens say which part. This module compares the spans with the text: they leave out the white
space and nothing else, no word goes on over the end of a span, and the kind of a token is the kind
of what it covers. Since nothing is carried over from one token to the next, tokens can be written
down again with other white space between them and are read as before.
-/

import SqlAssist.Proofs.Sql.Token
import SqlAssist.Proofs.Text.Slice

namespace SqlAssist

/-! ## Lower case -/

namespace Text

/-- The two shapes of the small sigma as one. -/
def plainSigma (c : Char) : Char :=
  if c = 'ς' then 'σ' else c

/-- The text in lower case. A capital sigma may have become either small one, since that depends on
where in its word it stands. -/
def IsLowerCase (text lowered : String) : Prop :=
  lowered.toList.map plainSigma = (foldCase text).toList.map plainSigma

/-- A text without sigmas is not mistaken for one that differs in the shape of its sigmas. -/
theorem eq_of_map_plainSigma {first second : List Char}
    (without : ∀ c ∈ first, c ≠ 'ς' ∧ c ≠ 'σ')
    (same : first.map plainSigma = second.map plainSigma) : first = second := by
  induction first generalizing second with
  | nil => simpa [eq_comm] using same
  | cons c rest ih =>
      cases second with
      | nil => simp at same
      | cons d more =>
          rw [List.map_cons, List.map_cons, List.cons.injEq] at same
          obtain ⟨notFinal, notSmall⟩ := without c List.mem_cons_self
          have head : c = d := by
            have shapes := same.1
            unfold plainSigma at shapes
            split at shapes
            · contradiction
            · split at shapes
              · contradiction
              · exact shapes
          rw [head, ih (fun e member => without e (List.mem_cons_of_mem _ member)) same.2]

end Text

namespace Sql

namespace Keyword

theorem ofLower?_eq_some_iff {word : String} {keyword : Keyword} :
    ofLower? word = some keyword ↔ keyword.spelling = word := by
  constructor
  · intro found
    have spelled := List.find?_some (p := fun keyword : Keyword => keyword.spelling == word) found
    exact eq_of_beq spelled
  · rintro rfl
    exact ofLower?_spelling keyword

/-- Keywords are spelled without sigmas, so the shape of these does not tell keywords from other
words. -/
theorem ofLower?_of_isLowerCase {text lowered : String} (lower : Text.IsLowerCase text lowered) :
    ofLower? lowered = ofLower? (Text.foldCase text) := by
  have absent (keyword : Keyword) :
      'ς' ∉ keyword.spelling.toList ∧ 'σ' ∉ keyword.spelling.toList := by
    cases keyword <;> decide +kernel
  have without (keyword : Keyword) (c : Char) (member : c ∈ keyword.spelling.toList) :
      c ≠ 'ς' ∧ c ≠ 'σ' := by
    constructor
    · rintro rfl
      exact (absent keyword).1 member
    · rintro rfl
      exact (absent keyword).2 member
  have same (keyword : Keyword) :
      keyword.spelling = lowered ↔ keyword.spelling = Text.foldCase text := by
    unfold Text.IsLowerCase at lower
    rw [← String.toList_inj, ← String.toList_inj]
    constructor
    · intro spelled
      rw [← spelled] at lower
      exact Text.eq_of_map_plainSigma (without keyword) lower
    · intro spelled
      rw [← spelled] at lower
      exact Text.eq_of_map_plainSigma (without keyword) lower.symm
  refine Option.ext fun keyword => ?_
  rw [ofLower?_eq_some_iff, ofLower?_eq_some_iff]
  exact same keyword

end Keyword

/-! ## Sources of tokens -/

namespace Apart

variable {first front second more : List Char}

theorem of_append_right (apart : Apart first (second ++ more)) : Apart first second := by
  intro c d last next
  exact apart c d last (by simp [List.head?_append, next])

/-- A cut goes over a longer front if the front is apart from all that follows. -/
theorem append_left (near : Apart first second) (far : Apart front (first ++ second)) :
    Apart (front ++ first) second := by
  cases first with
  | nil => simpa using far
  | cons e rest =>
      intro c d last next
      rw [List.getLast?_append_of_ne_nil _ (List.cons_ne_nil e rest)] at last
      exact near c d last next

end Apart

namespace Token

variable {position byte : Nat} {c : Char} {text source rest before after : List Char}
  {kind : TokenKind} {token : Token}

/-- What one token is read from: a word, or a character that belongs to no word. -/
inductive Lexeme : List Char → TokenKind → Prop
  | word {source : List Char} (nonEmpty : source ≠ [])
      (isWord : ∀ c ∈ source, isIdentChar c = true) :
      Lexeme source (wordKind (String.ofList source))
  | symbol {c : Char} (notBlank : Text.isWhiteSpace c = false)
      (notIdent : isIdentChar c = false) : Lexeme [c] (symbolKind c)

namespace Lexeme

theorem ne_nil (lexeme : Lexeme source kind) : source ≠ [] := by
  cases lexeme with
  | word nonEmpty isWord => exact nonEmpty
  | symbol notBlank notIdent => exact List.cons_ne_nil _ _

theorem isWhiteSpace_eq_false (lexeme : Lexeme source kind) :
    ∀ c ∈ source, Text.isWhiteSpace c = false := by
  intro c member
  cases lexeme with
  | word nonEmpty isWord =>
      rw [← Bool.not_eq_true]
      intro blank
      have ident := isWord c member
      rw [isIdentChar_eq_false_of_isWhiteSpace blank] at ident
      cases ident
  | symbol notBlank notIdent =>
      rw [List.mem_singleton.mp member]
      exact notBlank

/-- A source on its own is read as the one token it is the source of. -/
theorem scan_eq (lexeme : Lexeme source kind) (position : Nat) :
    scan position source = [⟨kind, position, position + Text.byteLength source⟩] := by
  cases lexeme with
  | word nonEmpty isWord =>
      have whole := @scan_word position source [] nonEmpty isWord (by simp)
      rwa [List.append_nil, scan_nil] at whole
  | symbol notBlank notIdent =>
      rw [scan_symbol notBlank notIdent, scan_nil]
      simp

theorem scan_append_eq (lexeme : Lexeme source kind) (apart : Apart source rest)
    (position : Nat) :
    scan position (source ++ rest) =
      ⟨kind, position, position + Text.byteLength source⟩ ::
        scan (position + Text.byteLength source) rest := by
  rw [scan_append apart, lexeme.scan_eq]
  rfl

/-- Every text is made of white space and the sources of tokens. -/
@[elab_as_elim]
theorem reading {motive : List Char → Prop} (text : List Char) (nil : motive [])
    (blank : ∀ c rest, Text.isWhiteSpace c = true → motive rest → motive (c :: rest))
    (lexeme : ∀ source kind rest, Lexeme source kind → Apart source rest → motive rest →
      motive (source ++ rest)) : motive text := by
  induction text using Token.reading with
  | nil => exact nil
  | blank c rest isBlank ih => exact blank c rest isBlank ih
  | word word rest nonEmpty isWord ends ih =>
      exact lexeme word _ rest (.word nonEmpty isWord) (.of_head ends) ih
  | symbol c rest notBlank notIdent ih =>
      exact lexeme [c] _ rest (.symbol notBlank notIdent) (.of_last (by simpa using notIdent)) ih

end Lexeme

/-- Every token has a source in the text, and no word goes on over the ends of it. -/
theorem exists_source_of_mem_scan (member : token ∈ scan position text) :
    ∃ before source after, text = before ++ source ++ after ∧
      token.start = position + Text.byteLength before ∧
      token.stop = position + Text.byteLength (before ++ source) ∧
      Lexeme source token.kind ∧ Apart before source ∧ Apart source after := by
  induction text using Lexeme.reading generalizing position with
  | nil => simp at member
  | blank c rest isBlank ih =>
      rw [scan_blank isBlank] at member
      obtain ⟨before, source, after, rfl, starts, stops, lexeme, left, right⟩ := ih member
      have apart : Apart [c] (before ++ source ++ after) :=
        .of_last (by simpa using isIdentChar_eq_false_of_isWhiteSpace isBlank)
      refine ⟨c :: before, source, after, rfl, ?_, ?_, lexeme, ?_, right⟩
      · rw [starts, Text.byteLength_cons, Nat.add_assoc]
      · rw [stops, List.cons_append, Text.byteLength_cons, Nat.add_assoc]
      · exact left.append_left apart.of_append_right
  | lexeme first kind rest lexeme apart ih =>
      rw [lexeme.scan_append_eq apart] at member
      rcases List.mem_cons.mp member with rfl | later
      · exact ⟨[], first, rest, rfl, rfl, rfl, lexeme, .of_last (by simp), apart⟩
      · obtain ⟨before, source, after, rfl, starts, stops, own, left, right⟩ := ih later
        refine ⟨first ++ before, source, after, by simp, ?_, ?_, own, ?_, right⟩
        · rw [starts, Text.byteLength_append, Nat.add_assoc]
        · rw [stops, List.append_assoc, Text.byteLength_append first, Nat.add_assoc]
        · exact left.append_left apart.of_append_right

/-! ## Spans -/

/-- Each token ends before the next one begins. -/
theorem pairwise_scan (text : List Char) (position : Nat) :
    (scan position text).Pairwise fun first second => first.stop ≤ second.start := by
  induction text using Lexeme.reading generalizing position with
  | nil => simp
  | blank c rest isBlank ih =>
      rw [scan_blank isBlank]
      exact ih _
  | lexeme source kind rest lexeme apart ih =>
      rw [lexeme.scan_append_eq apart, List.pairwise_cons]
      exact ⟨fun later member => (bounds_of_mem_scan member).1, ih _⟩

/-- Whether the byte lies in the span of the token. -/
def Spans (token : Token) (byte : Nat) : Prop :=
  token.start ≤ byte ∧ byte < token.stop

theorem not_spans_of_lt (early : byte < position) (text : List Char) :
    ¬ ∃ token ∈ scan position text, token.Spans byte := by
  rintro ⟨token, member, starts, _⟩
  have inside := bounds_of_mem_scan member
  omega

/-- The bytes in the spans of tokens are those of all characters but white space. -/
theorem exists_spans_iff (split : text = before ++ c :: after)
    (lower : position + Text.byteLength before ≤ byte)
    (upper : byte < position + Text.byteLength before + c.utf8Size) :
    (∃ token ∈ scan position text, token.Spans byte) ↔ Text.isWhiteSpace c = false := by
  induction text using Lexeme.reading generalizing position before with
  | nil => simp at split
  | blank d rest isBlank ih =>
      rw [scan_blank isBlank]
      rcases List.cons_eq_append_iff.mp split with ⟨rfl, same⟩ | ⟨front, rfl, same⟩
      · obtain ⟨rfl, rfl⟩ := List.cons.inj same
        rw [Text.byteLength_nil] at upper
        simp only [isBlank, Bool.true_eq_false, iff_false]
        exact not_spans_of_lt (by omega) after
      · rw [Text.byteLength_cons] at lower upper
        exact ih same (by omega) (by omega)
  | lexeme source kind rest lexeme apart ih =>
      rw [lexeme.scan_append_eq apart, List.exists_mem_cons_iff]
      -- The character belongs to the token that is read first, or stands behind it.
      have place : (∃ tail, source = before ++ c :: tail) ∨
          ∃ front, before = source ++ front ∧ rest = front ++ c :: after := by
        rcases List.append_eq_append_iff.mp split with
          ⟨front, same, behind⟩ | ⟨tail, same, behind⟩
        · exact .inr ⟨front, same, behind⟩
        · cases tail with
          | nil => exact .inr ⟨[], by simpa using same.symm, by simpa using behind.symm⟩
          | cons d tail =>
              obtain ⟨rfl, _⟩ := List.cons.inj behind
              exact .inl ⟨tail, same⟩
      rcases place with ⟨tail, rfl⟩ | ⟨front, rfl, behind⟩
      · have solid : Text.isWhiteSpace c = false := lexeme.isWhiteSpace_eq_false c (by simp)
        simp only [solid, iff_true]
        left
        rw [Text.byteLength_append, Text.byteLength_cons]
        exact ⟨by simp only; omega, by simp only; omega⟩
      · rw [Text.byteLength_append] at lower upper
        have outside : ¬ Spans ⟨kind, position, position + Text.byteLength source⟩ byte := by
          rintro ⟨_, stops⟩
          simp only at stops
          omega
        simp only [outside, false_or]
        exact ih behind (by omega) (by omega)

/-- The text from a position on, put together again from the spans of tokens and from what lies
between them. -/
def rebuild? (sql : String) (position : Nat) : List Token → Option String
  | [] => Text.slice? sql position sql.utf8ByteSize
  | token :: rest => do
    let gap ← Text.slice? sql position token.start
    let source ← Text.slice? sql token.start token.stop
    let behind ← rebuild? sql token.stop rest
    return gap ++ source ++ behind

/-- The tokens of a text rebuild it, also if the reading of it has begun after a gap. -/
theorem rebuild?_scan {sql front gap : String} (text : List Char)
    (split : sql = front ++ gap ++ String.ofList text) :
    rebuild? sql front.utf8ByteSize (scan (front ++ gap).utf8ByteSize text) =
      some (gap ++ String.ofList text) := by
  induction text using Lexeme.reading generalizing front gap with
  | nil =>
      rw [scan_nil, rebuild?, Text.slice?_eq_some_iff]
      exact ⟨front, "", by simpa using split, rfl, by simp [split]⟩
  | blank c rest isBlank ih =>
      have moved : gap ++ String.ofList (c :: rest) =
          gap ++ String.singleton c ++ String.ofList rest := by
        rw [← String.toList_inj]
        simp
      have grown := @ih front (gap ++ String.singleton c)
        (by rw [split, String.append_assoc, moved, ← String.append_assoc])
      rwa [← String.append_assoc, String.utf8ByteSize_append, String.utf8ByteSize_singleton,
        ← scan_blank isBlank, ← moved] at grown
  | lexeme source kind rest lexeme apart ih =>
      have split' : sql = front ++ gap ++ String.ofList source ++ String.ofList rest := by
        rw [split, String.ofList_append, ← String.append_assoc]
      have size : (front ++ gap).utf8ByteSize + Text.byteLength source =
          (front ++ gap ++ String.ofList source).utf8ByteSize := by
        rw [String.utf8ByteSize_append (s := front ++ gap), ← Text.byteLength_toList (.ofList _),
          String.toList_ofList]
      have before : Text.slice? sql front.utf8ByteSize (front ++ gap).utf8ByteSize = some gap :=
        Text.slice?_eq_some_iff.mpr ⟨front, _, split, rfl, rfl⟩
      have inside : Text.slice? sql (front ++ gap).utf8ByteSize
          (front ++ gap ++ String.ofList source).utf8ByteSize = some (String.ofList source) :=
        Text.slice?_eq_some_iff.mpr ⟨front ++ gap, _, split', rfl, rfl⟩
      have behind := @ih (front ++ gap ++ String.ofList source) "" (by simpa using split')
      rw [String.append_empty, String.empty_append] at behind
      rw [lexeme.scan_append_eq apart, rebuild?, size, before, inside, behind, String.ofList_append,
        ← String.append_assoc]
      rfl

end Token

/-- What a token of each kind covers. -/
def TokenKind.Fits (kind : TokenKind) (text : String) : Prop :=
  match kind with
  | .ident name =>
    name = text ∧ (∀ c ∈ text.toList, isIdentChar c = true) ∧
      ∀ lowered, Text.IsLowerCase text lowered → Keyword.ofLower? lowered = none
  | .keyword leading =>
    (∀ c ∈ text.toList, isIdentChar c = true) ∧
      ∀ lowered, Text.IsLowerCase text lowered → Keyword.ofLower? lowered = some leading
  | .semicolon => text = ";"
  | .dot => text = "."
  | .parenOpen => text = "("
  | .parenClose => text = ")"
  | .other c => text = String.singleton c ∧ isIdentChar c = false ∧ c ∉ [';', '.', '(', ')']

theorem Token.Lexeme.fits {source : List Char} {kind : TokenKind} (lexeme : Lexeme source kind) :
    kind.Fits (String.ofList source) := by
  cases lexeme with
  | word nonEmpty isWord =>
      have ident : ∀ c ∈ (String.ofList source).toList, isIdentChar c = true := by
        simpa using isWord
      unfold wordKind
      cases found : Keyword.ofLower? (Text.foldCase (String.ofList source)) with
      | none =>
          exact ⟨rfl, ident, fun lowered lower => by
            rw [Keyword.ofLower?_of_isLowerCase lower, found]⟩
      | some keyword =>
          exact ⟨ident, fun lowered lower => by
            rw [Keyword.ofLower?_of_isLowerCase lower, found]⟩
  | @symbol c notBlank notIdent =>
      rw [← String.singleton_eq_ofList]
      unfold symbolKind
      split
      · show String.singleton ';' = ";"
        decide
      · show String.singleton '.' = "."
        decide
      · show String.singleton '(' = "("
        decide
      · show String.singleton ')' = ")"
        decide
      · exact ⟨rfl, notIdent, by simp_all⟩

theorem Token.Lexeme.isIdentChar_of_isWord {source : List Char} {kind : TokenKind}
    (lexeme : Lexeme source kind) (isWord : kind.isWord = true) :
    ∀ c ∈ source, isIdentChar c = true := by
  cases lexeme with
  | word nonEmpty ident => exact ident
  | symbol notBlank notIdent => simp at isWord

/-- A token stands where its text stands and is what its text says; and if it is a word, it is a
whole one. -/
structure Token.Exact (sql : String) (token : Token) (before text after : String) : Prop where
  split : sql = before ++ text ++ after
  start_eq : token.start = before.utf8ByteSize
  stop_eq : token.stop = (before ++ text).utf8ByteSize
  fits : token.kind.Fits text
  solid : ∀ c ∈ text.toList, Text.isWhiteSpace c = false
  cut_left : token.kind.isWord = true →
    ∀ c, before.toList.getLast? = some c → isIdentChar c = false
  cut_right : token.kind.isWord = true →
    ∀ c, after.toList.head? = some c → isIdentChar c = false

theorem Token.exists_exact {sql : String} {token : Token} (member : token ∈ tokenize sql) :
    ∃ before text after, token.Exact sql before text after ∧ Lexeme text.toList token.kind := by
  obtain ⟨before, source, after, split, starts, stops, lexeme, left, right⟩ :=
    exists_source_of_mem_scan member
  rw [Nat.zero_add] at starts stops
  refine ⟨.ofList before, .ofList source, .ofList after, ⟨?_, ?_, ?_, lexeme.fits, ?_, ?_, ?_⟩, ?_⟩
  · rw [← String.ofList_append, ← String.ofList_append, ← split, String.ofList_toList]
  · rw [starts, ← Text.byteLength_toList, String.toList_ofList]
  · rw [stops, ← String.ofList_append, ← Text.byteLength_toList, String.toList_ofList]
  · rw [String.toList_ofList]
    exact lexeme.isWhiteSpace_eq_false
  · intro isWord c last
    rw [String.toList_ofList] at last
    obtain ⟨d, tail, rfl⟩ := List.exists_cons_of_ne_nil lexeme.ne_nil
    refine (left c d last rfl).resolve_right ?_
    simp [lexeme.isIdentChar_of_isWord isWord d List.mem_cons_self]
  · intro isWord c next
    rw [String.toList_ofList] at next
    refine (right _ c (List.getLast?_eq_some_getLast lexeme.ne_nil) next).resolve_left ?_
    simp [lexeme.isIdentChar_of_isWord isWord _ (List.getLast_mem lexeme.ne_nil)]
  · rwa [String.toList_ofList]

/-- **Tokens are exact and nothing is lost.** Every token covers a part of the text that is not
empty and begins and ends between characters. It covers no white space, its kind is that of what it
covers, and a word is covered as a whole. The spans follow one another and leave out the bytes of
white space and no others, so with the gaps between them they make up the text again. -/
theorem tokenize_exact (sql : String) :
    (∀ token ∈ tokenize sql,
      token.start < token.stop ∧ token.stop ≤ sql.utf8ByteSize ∧
      String.Pos.Raw.IsValid sql ⟨token.start⟩ ∧ String.Pos.Raw.IsValid sql ⟨token.stop⟩ ∧
      ∃ before text after, token.Exact sql before text after) ∧
    ((tokenize sql).Pairwise fun first second =>
      first.start < second.start ∧ first.stop ≤ second.start) ∧
    (∀ before c after, sql = before ++ String.singleton c ++ after →
      ∀ byte, before.utf8ByteSize ≤ byte → byte < before.utf8ByteSize + c.utf8Size →
        ((∃ token ∈ tokenize sql, token.Spans byte) ↔ Text.isWhiteSpace c = false)) ∧
    Token.rebuild? sql 0 (tokenize sql) = some sql := by
  refine ⟨?_, ?_, ?_, ?_⟩
  · intro token member
    obtain ⟨_, nonEmpty, inside⟩ := Token.bounds_of_mem_scan member
    obtain ⟨before, text, after, placed, _⟩ := Token.exists_exact member
    have part : ∃ part, Text.slice? sql token.start token.stop = some part :=
      ⟨text, Text.slice?_eq_some_iff.mpr
        ⟨before, after, placed.split, placed.start_eq.symm, placed.stop_eq.symm⟩⟩
    obtain ⟨_, begins, ends⟩ := Text.exists_slice?_iff.mp part
    rw [Nat.zero_add, Text.byteLength_toList] at inside
    exact ⟨nonEmpty, inside, begins, ends, before, text, after, placed⟩
  · have ordered : (tokenize sql).Pairwise fun first second => first.stop ≤ second.start :=
      Token.pairwise_scan sql.toList 0
    refine ordered.imp_of_mem fun member _ before => ⟨?_, before⟩
    exact Nat.lt_of_lt_of_le (Token.bounds_of_mem_scan member).2.1 before
  · intro before c after split byte lower upper
    refine @Token.exists_spans_iff 0 byte c sql.toList before.toList after.toList ?_ ?_ ?_
    · rw [split]
      simp
    · rw [Text.byteLength_toList]
      omega
    · rw [Text.byteLength_toList]
      omega
  · have rebuilt := @Token.rebuild?_scan sql "" "" sql.toList (by simp)
    simpa [tokenize] using rebuilt

/-- A byte inside a character of two bytes lies in a word, and the byte of a blank in no token. -/
theorem tokenize_exact_umlaut :
    (∃ token ∈ tokenize "größe ;", token.Spans 3 ∧ token.stop ≤ 9 ∧
        ∃ before text after, token.Exact "größe ;" before text after) ∧
      ¬ ∃ token ∈ tokenize "größe ;", token.Spans 7 := by
  obtain ⟨within, _, covers, _⟩ := tokenize_exact "größe ;"
  have word := covers "gr" 'ö' "ße ;" rfl 3 (by decide) (by decide)
  have blank := covers "größe" ' ' ";" rfl 7 (by decide) (by decide)
  constructor
  · obtain ⟨token, member, spans⟩ := word.mpr (by decide +kernel)
    obtain ⟨_, inside, _, _, placed⟩ := within token member
    exact ⟨token, member, spans, inside, placed⟩
  · intro found
    exact absurd (blank.mp found) (by decide +kernel)

/-! ## Writing tokens down again -/

/-- The part of the text that a token covers. -/
def Token.source (sql : String) (token : Token) : String :=
  (Text.slice? sql token.start token.stop).getD ""

theorem Token.slice?_eq_source {sql : String} {token : Token} (member : token ∈ tokenize sql) :
    Text.slice? sql token.start token.stop = some (token.source sql) ∧
      Lexeme (token.source sql).toList token.kind := by
  obtain ⟨before, text, after, placed, lexeme⟩ := exists_exact member
  have part : Text.slice? sql token.start token.stop = some text :=
    Text.slice?_eq_some_iff.mpr
      ⟨before, after, placed.split, placed.start_eq.symm, placed.stop_eq.symm⟩
  simp only [source, part, Option.getD_some]
  exact ⟨trivial, lexeme⟩

/-- Texts one after the other, with a gap between each of them and the next. -/
def spaced (gap : Nat → String) : List String → String
  | [] => ""
  | [text] => text
  | text :: next :: rest => text ++ gap rest.length ++ spaced gap (next :: rest)

theorem tokenize_append {first second : String} (apart : Apart first.toList second.toList) :
    tokenize (first ++ second) =
      tokenize first ++ (tokenize second).map (Token.shift first.utf8ByteSize) := by
  rw [tokenize, String.toList_append, Token.scan_append apart, Token.scan_add,
    Text.byteLength_toList]
  rfl

theorem map_kind_tokenize_append {first second : String}
    (apart : Apart first.toList second.toList) :
    (tokenize (first ++ second)).map (·.kind) =
      (tokenize first).map (·.kind) ++ (tokenize second).map (·.kind) := by
  rw [tokenize_append apart, List.map_append, List.map_map]
  rfl

theorem tokenize_blank {gap : String} (blank : ∀ c ∈ gap.toList, Text.isWhiteSpace c = true) :
    tokenize gap = [] := by
  suffices nothing : ∀ chars position, (∀ c ∈ chars, Text.isWhiteSpace c = true) →
      Token.scan position chars = [] from nothing gap.toList 0 blank
  intro chars position
  induction chars generalizing position with
  | nil => simp
  | cons c rest ih =>
      intro blank
      rw [Token.scan_blank (blank c List.mem_cons_self)]
      exact ih _ fun d member => blank d (List.mem_cons_of_mem _ member)

/-- Sources that are kept apart by white space are read one by one. -/
theorem map_kind_tokenize_spaced {gap : Nat → String}
    (separates : ∀ i, gap i ≠ "" ∧ ∀ c ∈ (gap i).toList, Text.isWhiteSpace c = true)
    {tokens : List Token} {source : Token → String}
    (lexemes : ∀ token ∈ tokens, Token.Lexeme (source token).toList token.kind) :
    (tokenize (spaced gap (tokens.map source))).map (·.kind) = tokens.map (·.kind) := by
  have single : ∀ token ∈ tokens, (tokenize (source token)).map (·.kind) = [token.kind] := by
    intro token member
    rw [tokenize, (lexemes token member).scan_eq]
    rfl
  induction tokens with
  | nil => simp [spaced, tokenize]
  | cons token rest ih =>
      have own := single token List.mem_cons_self
      cases rest with
      | nil => exact own
      | cons next more =>
          have later := ih (fun token member => lexemes token (List.mem_cons_of_mem _ member))
            (fun token member => single token (List.mem_cons_of_mem _ member))
          obtain ⟨nonEmpty, blank⟩ := separates (more.map source).length
          have cut : ∀ c ∈ (gap (more.map source).length).toList, isIdentChar c = false :=
            fun c member => isIdentChar_eq_false_of_isWhiteSpace (blank c member)
          have behind : ∀ text : String,
              Apart (source token).toList (gap (more.map source).length ++ text).toList := by
            intro text
            obtain ⟨d, tail, begins⟩ :=
              List.exists_cons_of_ne_nil (mt String.toList_eq_nil_iff.mp nonEmpty)
            rw [begins] at cut
            refine .of_head fun c head => ?_
            rw [String.toList_append, begins, List.cons_append, List.head?_cons,
              Option.some_inj] at head
            exact head ▸ cut d List.mem_cons_self
          rw [List.map_cons, List.map_cons, spaced, String.append_assoc,
            map_kind_tokenize_append (behind _), own,
            map_kind_tokenize_append (.of_last fun c last => cut c (List.mem_of_getLast? last)),
            tokenize_blank blank, List.map_nil, List.nil_append, ← List.map_cons, later]
          rfl

/-- **Texts are read in parts.** Where no word goes on from one text into the next, the tokens of
both in a row are those of the first and then those of the second, moved by the length of the first.
So the sources of the tokens of any text, written down again with any white space between them, are
read as tokens of the same kinds. -/
theorem tokenize_compositional :
    (∀ first second : String,
      ¬ (∃ c d, first.toList.getLast? = some c ∧ isIdentChar c = true ∧
        second.toList.head? = some d ∧ isIdentChar d = true) →
      tokenize (first ++ second) =
        tokenize first ++ (tokenize second).map (Token.shift first.utf8ByteSize)) ∧
    ∀ (sql : String) (gap : Nat → String),
      (∀ token ∈ tokenize sql,
        Text.slice? sql token.start token.stop = some (token.source sql)) ∧
      ((∀ i, gap i ≠ "" ∧ ∀ c ∈ (gap i).toList, Text.isWhiteSpace c = true) →
        (tokenize (spaced gap ((tokenize sql).map (Token.source sql)))).map (·.kind) =
          (tokenize sql).map (·.kind)) := by
  refine ⟨?_, fun sql gap => ⟨?_, ?_⟩⟩
  · intro first second notBoth
    apply tokenize_append
    intro c d last next
    by_contra both
    rw [not_or, Bool.not_eq_false, Bool.not_eq_false] at both
    exact notBoth ⟨c, d, last, both.1, next, both.2⟩
  · exact fun token member => (Token.slice?_eq_source member).1
  · intro separates
    exact map_kind_tokenize_spaced separates fun token member =>
      (Token.slice?_eq_source member).2

/-- A word and a dot are read apart, also with an empty line between them. -/
theorem tokenize_compositional_dotted :
    tokenize ("größe" ++ ".x") = tokenize "größe" ++ (tokenize ".x").map (Token.shift 7) ∧
      (tokenize (spaced (fun _ => "\n\n")
        ((tokenize "größe.x").map (Token.source "größe.x")))).map (·.kind) =
          (tokenize "größe.x").map (·.kind) := by
  constructor
  · refine tokenize_compositional.1 "größe" ".x" ?_
    rintro ⟨c, d, _, _, next, isIdent⟩
    cases next
    exact absurd isIdent (by decide +kernel)
  · refine (tokenize_compositional.2 "größe.x" fun _ => "\n\n").2 fun _ => ⟨by decide, ?_⟩
    exact List.all_eq_true.mp (by decide +kernel)

end Sql

end SqlAssist
