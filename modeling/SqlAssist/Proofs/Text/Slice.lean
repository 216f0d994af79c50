/-
# Parts of a text between byte offsets

Spans and cursors are byte offsets, and what lies between two of them is a text only if both stand
between characters. `slice?` has no answer otherwise, so a result that gives a slice also says that
no character was cut in two.
-/

import SqlAssist.Text.Offset

namespace SqlAssist.Text

variable {text part : String} {start stop : Nat}

/-- The part of a text from one byte offset up to, but without, another. -/
def slice? (text : String) (start stop : Nat) : Option String :=
  (takeBytes? stop text.toList).bind fun upTo =>
    (takeBytes? start upTo).map fun before => String.ofList (upTo.drop before.length)

/-- Only nothing is zero bytes long. -/
theorem byteLength_eq_zero_iff {chars : List Char} : byteLength chars = 0 ↔ chars = [] := by
  cases chars with
  | nil => simp
  | cons c rest =>
      have positive := c.utf8Size_pos
      simp only [byteLength_cons, reduceCtorEq, iff_false]
      omega

/-- A part is told by what stands before it and after it. -/
theorem slice?_eq_some_iff :
    slice? text start stop = some part ↔
      ∃ before after, text = before ++ part ++ after ∧ before.utf8ByteSize = start ∧
        (before ++ part).utf8ByteSize = stop := by
  constructor
  · intro found
    obtain ⟨upTo, cut, rest⟩ := Option.bind_eq_some_iff.mp found
    obtain ⟨before, cutAgain, rfl⟩ := Option.map_eq_some_iff.mp rest
    obtain ⟨stops, after, split⟩ := takeBytes?_eq_some_iff.mp cut
    obtain ⟨starts, inner, rfl⟩ := takeBytes?_eq_some_iff.mp cutAgain
    rw [List.drop_left]
    refine ⟨String.ofList before, String.ofList after, ?_, ?_, ?_⟩
    · rw [← String.ofList_append, ← String.ofList_append, ← split, String.ofList_toList]
    · rw [← byteLength_toList, String.toList_ofList, starts]
    · rw [← String.ofList_append, ← byteLength_toList, String.toList_ofList, stops]
  · rintro ⟨before, after, rfl, rfl, rfl⟩
    simp only [slice?, ← byteLength_toList, String.toList_append, takeBytes?_append,
      Option.bind_some, Option.map_some, List.drop_left, String.ofList_toList]

/-- The beginning of a text up to a byte offset. -/
theorem slice?_zero_eq_some_iff :
    slice? text 0 stop = some part ↔ ∃ after, text = part ++ after ∧ part.utf8ByteSize = stop := by
  rw [slice?_eq_some_iff]
  constructor
  · rintro ⟨before, after, rfl, nothing, rfl⟩
    obtain rfl : before = "" := String.utf8ByteSize_eq_zero_iff.mp nothing
    exact ⟨after, by simp, by simp⟩
  · rintro ⟨after, rfl, rfl⟩
    exact ⟨"", after, by simp, rfl, by simp⟩

/-- Two beginnings of a text are in order of their lengths. -/
theorem exists_append_of_size_le {first second more rest : String}
    (same : first ++ more = second ++ rest) (shorter : first.utf8ByteSize ≤ second.utf8ByteSize) :
    ∃ between, second = first ++ between := by
  rw [← String.toList_inj, String.toList_append, String.toList_append,
    List.append_eq_append_iff] at same
  rcases same with ⟨between, longer, _⟩ | ⟨extra, longer, _⟩
  · exact ⟨String.ofList between, by
      rw [← String.toList_inj, String.toList_append, String.toList_ofList, longer]⟩
  · have nothing : extra = [] := by
      rw [← byteLength_eq_zero_iff]
      rw [← byteLength_toList, ← byteLength_toList, longer, byteLength_append] at shorter
      omega
    exact ⟨"", by rw [← String.toList_inj, String.append_empty, longer, nothing, List.append_nil]⟩

/-- There is a part between two offsets if both are boundaries of characters, in this order, and
not otherwise. -/
theorem exists_slice?_iff :
    (∃ part, slice? text start stop = some part) ↔
      start ≤ stop ∧ String.Pos.Raw.IsValid text ⟨start⟩ ∧ String.Pos.Raw.IsValid text ⟨stop⟩ := by
  simp only [slice?_eq_some_iff, String.Pos.Raw.isValid_iff_exists_append]
  constructor
  · rintro ⟨part, before, after, rfl, rfl, rfl⟩
    refine ⟨?_, ⟨before, part ++ after, String.append_assoc .., rfl⟩,
      before ++ part, after, rfl, rfl⟩
    rw [String.utf8ByteSize_append]
    omega
  · rintro ⟨inOrder, ⟨before, more, split, starts⟩, upTo, after, splitAgain, stops⟩
    have starts : before.utf8ByteSize = start := (congrArg String.Pos.Raw.byteIdx starts).symm
    have stops : upTo.utf8ByteSize = stop := (congrArg String.Pos.Raw.byteIdx stops).symm
    obtain ⟨part, rfl⟩ := exists_append_of_size_le (split.symm.trans splitAgain)
      (by rw [starts, stops]; exact inOrder)
    exact ⟨part, before, after, splitAgain, starts, stops⟩

end SqlAssist.Text
