/-
# Rows read and rows counted

Counting goes through good rows one by one, and as long as it goes on the counter is the number of
rows read so far. It stops at a failing row, at the first row beyond the limit or at the end of the
stream, whichever comes first, and never reads what comes after that. The counter is compared with
the limit before it is raised. So it never passes the limit, and in 64 bits it never overflows, not
even under the greatest limit that fits into them.
-/

import SqlAssist.Session.RowCount

namespace SqlAssist

universe u v
variable {ε : Type u} {α : Type v} {rows taken rest : List (Except ε α)}

/-! ## Where counting stops -/

/-- Good rows within the limit are counted, and counting goes on after them. -/
theorem countFrom_append {limit count : Nat} (good : ∀ row ∈ taken, row.isOk = true)
    (within : count + taken.length ≤ limit) (rest : List (Except ε α)) :
    countFrom limit count (taken ++ rest) = countFrom limit (count + taken.length) rest := by
  induction taken generalizing count with
  | nil => rfl
  | cons row taken ih =>
      obtain ⟨first, others⟩ := List.forall_mem_cons.mp good
      rw [List.length_cons] at within
      have below : count ≠ limit := by omega
      cases row with
      | error cause => cases first
      | ok value =>
          rw [List.cons_append, countFrom, if_neg below, ih others (by omega), List.length_cons,
            Nat.add_assoc, Nat.add_comm 1]

theorem countCapped_append {limit : Nat} (good : ∀ row ∈ taken, row.isOk = true)
    (within : taken.length ≤ limit) (rest : List (Except ε α)) :
    countCapped limit (taken ++ rest) = countFrom limit taken.length rest := by
  rw [countCapped, countFrom_append good (by omega), Nat.zero_add]

section Stops

variable {limit : Nat}

/-- The first failing row stops counting, up to one row beyond the limit. -/
theorem countCapped_of_failing {i : Nat} {cause : ε} (within : i ≤ limit)
    (failing : rows[i]? = some (.error cause)) (good : ∀ row ∈ rows.take i, row.isOk = true) :
    countCapped limit rows = ⟨.error cause, i + 1⟩ := by
  obtain ⟨inside, failing⟩ := List.getElem?_eq_some_iff.mp failing
  have length : (rows.take i).length = i := List.length_take_of_le (Nat.le_of_lt inside)
  have counted := countCapped_append good (Nat.le_trans (Nat.le_of_eq length) within) (rows.drop i)
  rwa [List.take_append_drop, length, List.drop_eq_getElem_cons inside, failing,
    countFrom] at counted

/-- The first row beyond the limit stops counting. It is read but not counted. -/
theorem countCapped_of_lt_length (more : limit < rows.length)
    (good : ∀ row ∈ rows.take (limit + 1), row.isOk = true) :
    countCapped limit rows = ⟨.ok ⟨limit, true⟩, limit + 1⟩ := by
  rw [List.take_add_one, List.getElem?_eq_getElem more] at good
  obtain ⟨within, beyond⟩ := List.forall_mem_append.mp good
  have length : (rows.take limit).length = limit := List.length_take_of_le (Nat.le_of_lt more)
  have counted := countCapped_append within (Nat.le_of_eq length) (rows.drop limit)
  rw [List.take_append_drop, length, List.drop_eq_getElem_cons more] at counted
  cases row : rows[limit] with
  | error cause =>
      rw [row] at beyond
      cases beyond _ List.mem_cons_self
  | ok value =>
      rwa [row, countFrom, if_pos rfl] at counted

/-- Without either, counting goes through the whole stream. -/
theorem countCapped_of_length_le (all : rows.length ≤ limit)
    (good : ∀ row ∈ rows, row.isOk = true) :
    countCapped limit rows = ⟨.ok ⟨rows.length, false⟩, rows.length⟩ := by
  have counted := countCapped_append good all []
  rwa [List.append_nil, countFrom] at counted

end Stops

/-! ## The counter -/

/-- Where counting stands before it looks at the next row: a counter of 64 bits, which starts over
when it overflows, and the rows that have not been read. -/
inductive Counting (limit : UInt64) (rows : List (Except ε α)) :
    (count : UInt64) → (rest : List (Except ε α)) → Prop where
  | start : Counting limit rows 0 rows
  | next {count : UInt64} {value : α} {rest : List (Except ε α)}
      (before : Counting limit rows count (.ok value :: rest)) (more : count ≠ limit) :
      Counting limit rows (count + 1) rest

/-- The counter is within the limit and is the number of rows read, which are all good. -/
structure Tallies (limit : UInt64) (rows : List (Except ε α)) (count : UInt64)
    (rest : List (Except ε α)) : Prop where
  atMost : count ≤ limit
  read : ∃ taken, rows = taken ++ rest ∧ taken.length = count.toNat ∧
    ∀ row ∈ taken, row.isOk = true

variable {limit count : UInt64}

theorem toNat_lt_of_le_of_ne (atMost : count ≤ limit) (more : count ≠ limit) :
    count.toNat < limit.toNat :=
  Nat.lt_of_le_of_ne (UInt64.le_iff_toNat_le.mp atMost) (mt UInt64.toNat_inj.mp more)

/-- A counter below the limit can be raised without overflow. -/
theorem toNat_add_one_of_lt (below : count.toNat < limit.toNat) :
    (count + 1).toNat = count.toNat + 1 := by
  rw [UInt64.toNat_add]
  exact Nat.mod_eq_of_lt (Nat.lt_of_le_of_lt below limit.toNat_lt)

theorem Tallies.next {value : α} (tallies : Tallies limit rows count (.ok value :: rest))
    (more : count ≠ limit) : Tallies limit rows (count + 1) rest := by
  obtain ⟨taken, whole, length, good⟩ := tallies.read
  have below := toNat_lt_of_le_of_ne tallies.atMost more
  have raised := toNat_add_one_of_lt below
  refine ⟨?_, taken ++ [.ok value], ?_, ?_, ?_⟩
  · rw [UInt64.le_iff_toNat_le, raised]
    exact below
  · rw [whole, List.append_assoc, List.singleton_append]
  · rw [List.length_append, List.length_singleton, length, raised]
  · intro row member
    cases List.mem_append.mp member with
    | inl earlier => exact good row earlier
    | inr last => rw [List.mem_singleton.mp last]; rfl

theorem Counting.tallies (counting : Counting limit rows count rest) :
    Tallies limit rows count rest := by
  induction counting with
  | start => exact ⟨UInt64.zero_le, [], rfl, rfl, nofun⟩
  | next before more ih => exact ih.next more

/-- Counting goes on over good rows as long as the counter stays within the limit. -/
theorem Counting.append {later : UInt64} (good : ∀ row ∈ taken, row.isOk = true)
    (counting : Counting limit rows count (taken ++ rest)) (atMost : later ≤ limit)
    (raised : later.toNat = count.toNat + taken.length) : Counting limit rows later rest := by
  induction taken generalizing count with
  | nil =>
      obtain rfl : later = count := UInt64.toNat_inj.mp raised
      exact counting
  | cons row taken ih =>
      obtain ⟨first, others⟩ := List.forall_mem_cons.mp good
      rw [List.length_cons] at raised
      have below : count.toNat < limit.toNat := by
        have bound := UInt64.le_iff_toNat_le.mp atMost
        omega
      have more : count ≠ limit := fun same => Nat.ne_of_lt below (congrArg UInt64.toNat same)
      cases row with
      | error cause => cases first
      | ok value =>
          apply ih others (counting.next more)
          rw [toNat_add_one_of_lt below]
          omega

/-- Counting comes through every count within the limit that the good rows allow. -/
theorem counting_iff :
    Counting limit rows count rest ↔ count ≤ limit ∧
      ∃ taken, rows = taken ++ rest ∧ taken.length = count.toNat ∧
        ∀ row ∈ taken, row.isOk = true := by
  constructor
  · intro counting
    exact ⟨counting.tallies.atMost, counting.tallies.read⟩
  · rintro ⟨atMost, taken, rfl, length, good⟩
    apply Counting.start.append good atMost
    rw [length, UInt64.toNat_zero, Nat.zero_add]

/-- Where counting stands decides how it ends. -/
theorem Tallies.countCapped_eq (tallies : Tallies limit rows count rest) :
    countCapped limit.toNat rows = countFrom limit.toNat count.toNat rest := by
  obtain ⟨taken, rfl, length, good⟩ := tallies.read
  have within : taken.length ≤ limit.toNat := by
    rw [length]
    exact UInt64.le_iff_toNat_le.mp tallies.atMost
  rw [countCapped_append good within, length]

/-- **Counting is exact and reads no further than it must.** If one of the rows up to the first one
beyond the limit fails, the first such row is the error, and it is the last row read. If none does,
more rows than the limit give the limit and the mark that there are more, with one row read beyond
it, and fewer are all read and counted. While it goes on, the counter comes through exactly those
values that are within the limit and are the number of rows read, all of them good. So raising it in
64 bits never overflows, whatever the limit; and how counting ends depends only on the counter and
on the rows not read yet. -/
theorem countCapped_exact (limit : UInt64) (rows : List (Except ε α)) :
    (∀ i cause, i ≤ limit.toNat → rows[i]? = some (.error cause) →
      (∀ row ∈ rows.take i, row.isOk = true) →
      countCapped limit.toNat rows = ⟨.error cause, i + 1⟩) ∧
    ((∀ row ∈ rows.take (limit.toNat + 1), row.isOk = true) →
      countCapped limit.toNat rows =
        if limit.toNat < rows.length then ⟨.ok ⟨limit.toNat, true⟩, limit.toNat + 1⟩
        else ⟨.ok ⟨rows.length, false⟩, rows.length⟩) ∧
    ∀ count rest,
      (Counting limit rows count rest ↔ count ≤ limit ∧
        ∃ taken, rows = taken ++ rest ∧ taken.length = count.toNat ∧
          ∀ row ∈ taken, row.isOk = true) ∧
      (Counting limit rows count rest →
        (count ≠ limit → (count + 1).toNat = count.toNat + 1) ∧
        countCapped limit.toNat rows = countFrom limit.toNat count.toNat rest) := by
  refine ⟨fun i cause => countCapped_of_failing, ?_, ?_⟩
  · intro good
    by_cases more : limit.toNat < rows.length
    · rw [if_pos more]
      exact countCapped_of_lt_length more good
    · rw [if_neg more]
      have all : rows.length ≤ limit.toNat := Nat.le_of_not_lt more
      rw [List.take_of_length_le (Nat.le_add_right_of_le all)] at good
      exact countCapped_of_length_le all good
  · intro count rest
    refine ⟨counting_iff, ?_⟩
    intro counting
    have tallies := counting.tallies
    refine ⟨?_, tallies.countCapped_eq⟩
    intro more
    exact toNat_add_one_of_lt (toNat_lt_of_le_of_ne tallies.atMost more)

/-- An error behind the row that stops counting is not read, an error in its place is; under the
greatest limit every row is counted. -/
theorem countCapped_exact_unread :
    let rows : List (Except String Nat) := [.ok 1, .ok 2, .ok 3, .error "unread"]
    let limit : UInt64 := 0xffffffffffffffff
    countCapped (2 : UInt64).toNat rows = ⟨.ok ⟨2, true⟩, 3⟩ ∧
      countCapped (3 : UInt64).toNat rows = ⟨.error "unread", 4⟩ ∧
      Counting 2 rows (0 + 1 + 1) [.ok 3, .error "unread"] ∧
      countFrom 2 2 [.ok 3, .error "unread"] = countCapped (2 : UInt64).toNat rows ∧
      countCapped limit.toNat (rows.take 3) = ⟨.ok ⟨3, false⟩, 3⟩ := by
  intro rows limit
  have counting : Counting 2 rows (0 + 1 + 1) [.ok 3, .error "unread"] :=
    .next (.next .start (by decide)) (by decide)
  obtain ⟨_, same⟩ := ((countCapped_exact 2 rows).2.2 _ _).2 counting
  exact ⟨(countCapped_exact 2 rows).2.1 (by decide),
    (countCapped_exact 3 rows).1 3 "unread" (by decide) rfl (by decide), counting, same.symm,
    (countCapped_exact limit (rows.take 3)).2.1 (by decide)⟩

end SqlAssist
