/-
# Candidate sets over refreshes

A candidate set is built once and refreshed any number of times. Whatever came before, a set of
such a chain represents the keywords it was first built with and the schema names it was refreshed
with last: both views rise strictly in completion order, and each holds its names and no others.
Only an empty name makes a step fail, so an earlier schema leaves no trace, not even in what can
still be refreshed.
-/

import SqlAssist.Proofs.Candidates.CandidateSet
import SqlAssist.Proofs.Candidates.Ranking

namespace SqlAssist

/-- A view has one entry for each name. -/
theorem View.size_ofNames (names : NameSet) : (ofNames names).size = names.size := by
  rw [size, ofNames, List.size_toArray, List.length_mergeSort, List.length_map,
    Std.ExtTreeSet.length_toList]

/-- The folded text that a view keeps is that of the candidate. -/
theorem View.folded_eq_of_mem {names : NameSet} {entry : Entry}
    (member : entry ∈ (ofNames names).entries) : entry.folded = Text.foldCase entry.text := by
  rw [← Array.mem_toList_iff, entries_ofNames] at member
  obtain ⟨name, _, rfl⟩ := List.mem_map.mp member
  rfl

namespace CandidateSet

variable {keywords names : NameSet} {earlier : List NameSet} {set : CandidateSet}

/-! ## What a set represents -/

/-- A candidate set represents these keywords and schema names. -/
structure Represents (set : CandidateSet) (keywords names : NameSet) : Prop where
  all_rises : set.all.texts.Pairwise fun a b => candidateOrder a b = .lt
  mem_all : ∀ name, name ∈ set.all.texts ↔ name ∈ keywords ∨ name ∈ names
  schemaOnly_rises : set.schemaOnly.texts.Pairwise fun a b => candidateOrder a b = .lt
  mem_schemaOnly : ∀ name, name ∈ set.schemaOnly.texts ↔ name ∈ names
  sublist : set.schemaOnly.texts.Sublist set.all.texts
  keywords_eq : set.keywords = keywords
  size_eq : set.size = (keywords ∪ names).size
  folded_all : ∀ entry ∈ set.all.entries, entry.folded = Text.foldCase entry.text
  folded_schemaOnly : ∀ entry ∈ set.schemaOnly.entries, entry.folded = Text.foldCase entry.text

theorem represents (set : CandidateSet) : set.Represents set.keywords set.schemaNames where
  all_rises := by
    rw [set.all_eq]
    exact View.pairwise_lt_texts_ofNames _
  mem_all name := by
    rw [set.all_eq, View.mem_texts_ofNames, Std.ExtTreeSet.mem_union_iff]
  schemaOnly_rises := by
    rw [set.schemaOnly_eq]
    exact View.pairwise_lt_texts_ofNames _
  mem_schemaOnly _ := set.mem_schemaOnly_iff
  sublist := set.sublist_schemaOnly_all
  keywords_eq := rfl
  size_eq := by
    rw [size, set.all_eq, View.size_ofNames]
  folded_all entry member := by
    rw [set.all_eq] at member
    exact View.folded_eq_of_mem member
  folded_schemaOnly entry member := by
    rw [set.schemaOnly_eq] at member
    exact View.folded_eq_of_mem member

/-! ## Chains of refreshes -/

/-- The sets that come from these keywords: one is built, and every other one is refreshed from a
set that came before. The schema names are listed with the latest first. -/
inductive History (keywords : NameSet) : List NameSet → CandidateSet → Prop where
  | built {names : NameSet} {set : CandidateSet} (made : build keywords names = .ok set) :
      History keywords [names] set
  | refreshed {names : NameSet} {earlier : List NameSet} {set next : CandidateSet}
      (before : History keywords earlier set) (made : set.refreshSchema names = .ok next) :
      History keywords (names :: earlier) next

/-- Refreshing keeps the keywords. -/
theorem History.keywords_eq (history : History keywords earlier set) :
    set.keywords = keywords := by
  induction history with
  | built made => exact (build_eq_ok_iff.mp made).1
  | refreshed before made ih => exact (build_eq_ok_iff.mp made).1.trans ih

/-- Only the latest schema names count. -/
theorem History.schemaNames_eq (history : History keywords (names :: earlier) set) :
    set.schemaNames = names := by
  cases history with
  | built made => exact (build_eq_ok_iff.mp made).2
  | refreshed before made => exact (build_eq_ok_iff.mp made).2

theorem History.refreshSchema_eq (history : History keywords earlier set) (names : NameSet) :
    set.refreshSchema names = build keywords names := by
  rw [refreshSchema, history.keywords_eq]

/-- Only an empty name makes building fail, and an empty keyword is reported first. -/
theorem build_eq_error_iff {cause : ArgumentError} :
    build keywords names = .error cause ↔
      "" ∈ keywords ∧ cause = .emptyKeyword ∨
        "" ∉ keywords ∧ "" ∈ names ∧ cause = .emptySchemaName := by
  by_cases emptyKeyword : "" ∈ keywords
  · simp [build, emptyKeyword, eq_comm]
  · by_cases emptyName : "" ∈ names
    · simp [build, emptyKeyword, emptyName, eq_comm]
    · simp [build, emptyKeyword, emptyName]

/-- A set of a chain can be refreshed unless a schema name is empty. -/
theorem History.exists_refreshSchema_eq_error_iff (history : History keywords earlier set)
    (names : NameSet) :
    (∃ cause, set.refreshSchema names = .error cause) ↔ "" ∈ names := by
  have nonEmpty : "" ∉ keywords := by
    rw [← history.keywords_eq]
    exact set.keywords_nonEmpty
  simp [history.refreshSchema_eq, build_eq_error_iff, nonEmpty]

/-- A chain comes as far as no name in it is empty. -/
theorem exists_history_iff (earlier : List NameSet) :
    (∃ set, History keywords (names :: earlier) set) ↔
      "" ∉ keywords ∧ ∀ schema ∈ names :: earlier, "" ∉ schema := by
  induction earlier generalizing names with
  | nil =>
      rw [List.forall_mem_singleton, ← exists_build_eq_ok_iff]
      constructor
      · rintro ⟨set, history⟩
        cases history with
        | built made => exact ⟨set, made⟩
        | refreshed before made => cases before
      · rintro ⟨set, made⟩
        exact ⟨set, .built made⟩
  | cons latest earlier ih =>
      rw [List.forall_mem_cons]
      constructor
      · rintro ⟨set, history⟩
        cases history with
        | refreshed before made =>
            obtain ⟨nonEmpty, others⟩ := ih.mp ⟨_, before⟩
            rw [before.refreshSchema_eq] at made
            exact ⟨nonEmpty, (exists_build_eq_ok_iff.mp ⟨set, made⟩).2, others⟩
      -- A refresh builds from the same keywords, so only the new schema names can stop it.
      · rintro ⟨nonEmpty, latestNonEmpty, others⟩
        obtain ⟨before, history⟩ := ih.mpr ⟨nonEmpty, others⟩
        obtain ⟨set, made⟩ := exists_build_eq_ok_iff.mpr ⟨nonEmpty, latestNonEmpty⟩
        rw [← history.refreshSchema_eq] at made
        exact ⟨set, .refreshed history made⟩

/-- **A set represents its keywords and its latest schema names.** Building fails exactly if a name
is empty, and names the keywords first. Otherwise the set, and every set that any chain of refreshes
reaches with these schema names last, represents the keywords and these names. Such a set refreshes
to what building from the same keywords would give, whatever came before it, and fails to do so only
for an empty schema name. -/
theorem build_refresh_exact (keywords names : NameSet) :
    (∀ cause, build keywords names = .error cause ↔
      "" ∈ keywords ∧ cause = .emptyKeyword ∨
        "" ∉ keywords ∧ "" ∈ names ∧ cause = .emptySchemaName) ∧
    ((∃ set, build keywords names = .ok set) ↔ "" ∉ keywords ∧ "" ∉ names) ∧
    ∀ earlier : List NameSet,
      ((∃ set, History keywords (names :: earlier) set) ↔
        "" ∉ keywords ∧ ∀ schema ∈ names :: earlier, "" ∉ schema) ∧
      ∀ set, History keywords (names :: earlier) set →
        set.Represents keywords names ∧
        ∀ next, set.refreshSchema next = build keywords next ∧
          ((∃ cause, set.refreshSchema next = .error cause) ↔ "" ∈ next) := by
  refine ⟨fun _ => build_eq_error_iff, exists_build_eq_ok_iff, ?_⟩
  intro earlier
  refine ⟨exists_history_iff earlier, ?_⟩
  intro set history
  constructor
  · have represented := set.represents
    rwa [history.keywords_eq, history.schemaNames_eq] at represented
  · intro next
    exact ⟨history.refreshSchema_eq next, history.exists_refreshSchema_eq_error_iff next⟩

end CandidateSet

end SqlAssist
