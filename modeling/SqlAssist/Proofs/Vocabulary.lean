/-
# Keywords are never empty

Empty words are dropped before words are put into upper case, and no form of a character is
empty, so the keywords gathered for a connection never hold the empty word. A candidate set can
therefore only be refused for its schema names.
-/

import SqlAssist.Vocabulary

namespace SqlAssist

theorem Text.upperCase_eq_empty_iff {text : String} : upperCase text = "" ↔ text = "" := by
  rw [← String.toList_inj, ← String.toList_inj]
  simp only [upperCase, String.toList_ofList, String.toList_empty, List.flatMap_eq_nil_iff]
  constructor
  · intro nothing
    cases letters : text.toList with
    | nil => rfl
    | cons c rest => exact absurd (nothing c (by simp [letters])) (upperTable.form_ne_nil c)
  · intro nothing c member
    simp [nothing] at member

namespace Vocabulary

theorem empty_notMem_standard : "" ∉ standard := by
  have listed : "" ∉ standardWords := by decide +kernel
  simpa [standard] using listed

theorem empty_notMem_advertised (answer : Except MetadataError NameSet) :
    "" ∉ advertised answer := by
  cases answer with
  | error cause => simp [advertised]
  | ok words =>
      simp only [advertised, NameSet.mem_ofList, List.mem_map, List.mem_filter, not_exists,
        not_and, and_imp]
      intro word _ named same
      rw [Text.upperCase_eq_empty_iff] at same
      simp [same] at named

/-- The keywords of a connection hold no empty word, whatever its server answers. -/
theorem empty_notMem_collect (withStandard : Bool) (answer : Except MetadataError NameSet) :
    "" ∉ collect withStandard answer := by
  cases withStandard with
  | false => exact empty_notMem_advertised answer
  | true =>
      intro member
      rcases Std.ExtTreeSet.mem_union_iff.mp member with fixed | advertised
      · exact empty_notMem_standard fixed
      · exact empty_notMem_advertised answer advertised

/-- The keywords of a connection are the standard vocabulary, if it is wanted, and the words of the
server that are not empty, in upper case. -/
theorem mem_collect {withStandard : Bool} {answer : Except MetadataError NameSet} {word : String} :
    word ∈ collect withStandard answer ↔
      withStandard = true ∧ word ∈ standard ∨
        ∃ words, answer = .ok words ∧ ∃ own ∈ words, own ≠ "" ∧ Text.upperCase own = word := by
  have contributed : word ∈ advertised answer ↔
      ∃ words, answer = .ok words ∧ ∃ own ∈ words, own ≠ "" ∧ Text.upperCase own = word := by
    cases answer with
    | error cause => simp [advertised]
    | ok words => simp [advertised, and_assoc]
  rw [← contributed]
  cases withStandard with
  | false => simp [collect]
  | true => simp [collect]

end Vocabulary

end SqlAssist
