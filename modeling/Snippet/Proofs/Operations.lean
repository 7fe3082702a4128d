import Snippet.Comment.Scan
import Snippet.Proofs.Cursor

/-!
# The cursor is a faithful queue

A cursor gives out the records of a snippet from the front, through operations that anyone may call in
any order and with lines that go back and forth. An operation looks at the record in front alone: it
takes it if it is of the operation's kind and its line is within reach, and it takes nothing else. Only
draining takes all that is left. So a cursor is always some number of records into the whole, and what
its operations have taken is what stands before it.
-/

namespace Snippet.Comment.Cursor

/-! ### Operations -/

inductive Operation where
  | prepare (line : UInt64)
  | nextOwn
  | takeElse
  | takeTail
  | skipBlank
  | drain
deriving DecidableEq, Repr

/-- What an operation returns. -/
inductive Answer where
  | nothing
  | own (text : Option (Option String))
  | marker (found : Bool)
  | tail (text : Option String)
  | records (left : List Record)
deriving DecidableEq, Repr

def perform (cursor : Cursor) : Operation → Answer × Cursor
  | .prepare line => (.nothing, cursor.prepare line)
  | .nextOwn => (.own cursor.nextOwn.1, cursor.nextOwn.2)
  | .takeElse => (.marker cursor.takeElse.1, cursor.takeElse.2)
  | .takeTail => (.tail cursor.takeTail.1, cursor.takeTail.2)
  | .skipBlank => (.nothing, cursor.skipBlank)
  | .drain => (.records cursor.drain.1, cursor.drain.2)

def after (cursor : Cursor) (operations : List Operation) : Cursor :=
  operations.foldl (fun cursor operation => (cursor.perform operation).2) cursor

/-- The records that an operation moves the cursor over. -/
def taken (cursor : Cursor) (operation : Operation) : List Record :=
  cursor.rest.take ((cursor.perform operation).2.consumed - cursor.consumed)

/-- The records that operations take one after the other. -/
def takenAll : Cursor → List Operation → List Record
  | _, [] => []
  | cursor, operation :: more =>
    cursor.taken operation ++ takenAll (cursor.perform operation).2 more

namespace Operation

/-- The kind of records that an operation is for. -/
def wants : Operation → Remark → Bool
  | prepare _, _ => false
  | nextOwn, remark => remark.isWholeLine
  | takeElse, remark => remark == .elseLine
  | takeTail, .tail _ => true
  | takeTail, _ => false
  | skipBlank, remark => remark == .blank
  | drain, _ => true

/-- The last line that an operation looks at. A blank may be one line ahead of the code, but nothing is
ahead of the greatest line. -/
def reach : Operation → UInt64 → Nat
  | skipBlank, line => (line + 1).toNat
  | _, line => line.toNat

theorem reach_of_ne {operation : Operation} (h : operation ≠ skipBlank) {line : UInt64} :
    operation.reach line = line.toNat := by
  cases operation with
  | skipBlank => exact absurd rfl h
  | _ => rfl

theorem reach_le (operation : Operation) (line : UInt64) :
    operation.reach line ≤ line.toNat + 1 := by
  cases operation with
  | skipBlank =>
      rw [reach, UInt64.toNat_add]
      exact Nat.mod_le _ _
  | _ => exact Nat.le_succ _

def admits (operation : Operation) (line : UInt64) (record : Record) : Bool :=
  record.line ≤ operation.reach line && operation.wants record.remark

/-- What an operation takes of the records that are left. -/
def takes (operation : Operation) (line : UInt64) (left : List Record) : List Record :=
  if operation = drain then left else (left.take 1).filter (operation.admits line)

/-- What an operation returns when it has taken some records. -/
def answer : Operation → List Record → Answer
  | prepare _, _ | skipBlank, _ => .nothing
  | nextOwn, records => .own (records.head?.map (·.remark.text?))
  | takeElse, records => .marker !records.isEmpty
  | takeTail, records => .tail (records.head?.bind (·.remark.text?))
  | drain, records => .records records

end Operation

/-! ### One operation -/

/-- An operation takes some records off the front, moves on by as many and answers for them. -/
structure Moves (cursor : Cursor) (operation : Operation) (records : List Record) : Prop where
  answer : (cursor.perform operation).1 = operation.answer records
  rest : cursor.rest = records ++ (cursor.perform operation).2.rest
  consumed : (cursor.perform operation).2.consumed = cursor.consumed + records.length

theorem pending_of_le {cursor : Cursor} {record : Record} {rest : List Record}
    (hrest : cursor.rest = record :: rest) (hline : record.line ≤ cursor.line.toNat) :
    cursor.pending = some record.remark := by
  simp [pending, hrest, hline]

theorem Operation.admits_iff {operation : Operation} {line : UInt64} {record : Record} :
    operation.admits line record = true ↔
      record.line ≤ operation.reach line ∧ operation.wants record.remark = true := by
  simp [Operation.admits]

/-- The record in front is taken when the operation admits it. -/
theorem perform_of_admits {cursor : Cursor} {record : Record} {rest : List Record}
    (hrest : cursor.rest = record :: rest) {operation : Operation} (hdrain : operation ≠ .drain)
    (h : operation.admits cursor.line record = true) :
    cursor.perform operation = (operation.answer [record], cursor.advance) := by
  obtain ⟨hline, hwants⟩ := Operation.admits_iff.mp h
  cases operation with
  | prepare line => cases hwants
  | nextOwn =>
      have hpending := pending_of_le hrest hline
      cases hremark : record.remark <;>
        simp_all [perform, nextOwn, Operation.wants, Operation.answer, Remark.isWholeLine, Remark.text?]
  | takeElse =>
      have hremark : record.remark = .elseLine := by simpa [Operation.wants] using hwants
      simp [perform, takeElse, pending_of_le hrest hline, hremark, Operation.answer]
  | takeTail =>
      have hpending := pending_of_le hrest hline
      cases hremark : record.remark <;>
        simp_all [perform, takeTail, Operation.wants, Operation.answer, Remark.text?]
  | skipBlank =>
      have hremark : record.remark = .blank := by simpa [Operation.wants] using hwants
      have hblank : record.line ≤ (cursor.line + 1).toNat ∧ record.remark = .blank :=
        ⟨hline, hremark⟩
      rw [perform, skipBlank, hrest]
      exact congrArg (Prod.mk _) (if_pos hblank)
  | drain => exact absurd rfl hdrain

/-- Without a record in front that the operation admits, nothing happens to the records. -/
theorem moves_nil {cursor : Cursor} {operation : Operation} (hdrain : operation ≠ .drain)
    (h : ∀ record ∈ cursor.rest.head?, operation.admits cursor.line record = false) :
    Moves cursor operation [] := by
  have hpending (hreach : operation.reach cursor.line = cursor.line.toNat) {remark : Remark}
      (hremark : cursor.pending = some remark) : operation.wants remark = false := by
    obtain ⟨record, hrest, hline, rfl⟩ := exists_of_pending hremark
    have hadmits := h record (by simp [hrest])
    simpa [Operation.admits, hreach, hline] using hadmits
  have stays (hperform : cursor.perform operation = (operation.answer [], cursor)) :
      Moves cursor operation [] :=
    ⟨by rw [hperform], by rw [hperform]; rfl, by rw [hperform]; rfl⟩
  cases operation with
  | prepare line => exact ⟨rfl, rfl, rfl⟩
  | nextOwn =>
      refine stays ?_
      rw [perform, nextOwn]
      split
      · next hblank => cases hpending rfl hblank
      · next text hown => cases hpending rfl hown
      · rfl
  | takeElse =>
      refine stays ?_
      rw [perform, takeElse]
      split
      · next helse => cases hpending rfl helse
      · rfl
  | takeTail =>
      refine stays ?_
      rw [perform, takeTail]
      split
      · next text htail => cases hpending rfl htail
      · rfl
  | skipBlank =>
      refine stays ?_
      rw [perform, skipBlank]
      split
      · next record rest hrest =>
          have hadmits := h record (by simp [hrest])
          have hnot : ¬ (record.line ≤ (cursor.line + 1).toNat ∧ record.remark = .blank) := by
            rintro ⟨hline, hremark⟩
            have hwants : Operation.skipBlank.wants record.remark = true := by
              rw [hremark]
              rfl
            rw [Operation.admits_iff.mpr ⟨hline, hwants⟩] at hadmits
            cases hadmits
          rw [if_neg hnot]
          rfl
      · rfl
  | drain => exact absurd rfl hdrain

theorem moves_singleton {cursor : Cursor} {record : Record} {rest : List Record}
    (hrest : cursor.rest = record :: rest) {operation : Operation} (hdrain : operation ≠ .drain)
    (h : operation.admits cursor.line record = true) : Moves cursor operation [record] := by
  have hperform := perform_of_admits hrest hdrain h
  exact ⟨by rw [hperform], by rw [hperform, advance, hrest]; rfl, by
    rw [hperform, advance, hrest]; rfl⟩

/-- An operation takes what it admits of the record in front, and draining takes all records. -/
theorem perform_moves (cursor : Cursor) (operation : Operation) :
    Moves cursor operation (operation.takes cursor.line cursor.rest) := by
  by_cases hdrain : operation = .drain
  · subst hdrain
    exact ⟨rfl, (List.append_nil _).symm, rfl⟩
  · rw [Operation.takes, if_neg hdrain]
    cases hrest : cursor.rest with
    | nil => exact moves_nil hdrain (by simp [hrest])
    | cons record rest =>
        cases hadmits : operation.admits cursor.line record with
        | true =>
            simpa [hadmits] using moves_singleton hrest hdrain hadmits
        | false =>
            have hnone : Moves cursor operation [] := moves_nil hdrain (by simp [hrest, hadmits])
            simpa [hadmits] using hnone

theorem taken_eq (cursor : Cursor) (operation : Operation) :
    cursor.taken operation = operation.takes cursor.line cursor.rest := by
  have hmoves := perform_moves cursor operation
  have hprefix : operation.takes cursor.line cursor.rest <+: cursor.rest :=
    ⟨_, hmoves.rest.symm⟩
  rw [taken, hmoves.consumed, Nat.add_sub_cancel_left]
  exact (List.prefix_iff_eq_take.mp hprefix).symm

theorem perform_moves_taken (cursor : Cursor) (operation : Operation) :
    Moves cursor operation (cursor.taken operation) := by
  rw [taken_eq]
  exact perform_moves cursor operation

theorem Operation.length_takes_le {operation : Operation} (hdrain : operation ≠ .drain) (line : UInt64)
    (left : List Record) : (operation.takes line left).length ≤ 1 := by
  rw [Operation.takes, if_neg hdrain]
  calc ((left.take 1).filter (operation.admits line)).length
      ≤ (left.take 1).length := List.length_filter_le _ _
    _ ≤ 1 := List.length_take_le 1 left

theorem Operation.admits_of_mem_takes {operation : Operation} (hdrain : operation ≠ .drain)
    {line : UInt64} {left : List Record} {record : Record} (h : record ∈ operation.takes line left) :
    record.line ≤ operation.reach line ∧ operation.wants record.remark = true := by
  rw [Operation.takes, if_neg hdrain] at h
  exact Operation.admits_iff.mp (List.mem_filter.mp h).2

/-! ### Many operations -/

/-- A cursor is some number of records into the whole. -/
structure StandsIn (records : List Record) (cursor : Cursor) : Prop where
  rest : cursor.rest = records.drop cursor.consumed
  bound : cursor.consumed ≤ records.length

theorem StandsIn.ofRecords (records : List Record) : StandsIn records (ofRecords records) :=
  ⟨rfl, Nat.zero_le _⟩

theorem StandsIn.perform {records : List Record} {cursor : Cursor} (h : StandsIn records cursor)
    (operation : Operation) : StandsIn records (cursor.perform operation).2 := by
  have hmoves := perform_moves_taken cursor operation
  have hlength : cursor.rest.length = records.length - cursor.consumed := by
    rw [h.rest, List.length_drop]
  have hparts : cursor.rest.length =
      (cursor.taken operation).length + (cursor.perform operation).2.rest.length := by
    rw [hmoves.rest, List.length_append]
  constructor
  · calc (cursor.perform operation).2.rest
        = cursor.rest.drop (cursor.taken operation).length := by
          rw [hmoves.rest, List.drop_left]
      _ = records.drop (cursor.perform operation).2.consumed := by
          rw [h.rest, List.drop_drop, hmoves.consumed]
  · have hbound := h.bound
    rw [hmoves.consumed]
    omega

theorem StandsIn.after {records : List Record} {cursor : Cursor} (h : StandsIn records cursor)
    (operations : List Operation) : StandsIn records (cursor.after operations) := by
  induction operations generalizing cursor with
  | nil => exact h
  | cons operation more ih => exact ih (h.perform operation)

theorem StandsIn.isExhausted_iff {records : List Record} {cursor : Cursor}
    (h : StandsIn records cursor) :
    cursor.isExhausted = true ↔ cursor.consumed = records.length := by
  have hbound := h.bound
  rw [isExhausted, List.isEmpty_iff, h.rest, List.drop_eq_nil_iff]
  omega

/-- What operations take one after the other, and what they leave, is all that was left before. -/
theorem takenAll_append_rest (cursor : Cursor) (operations : List Operation) :
    cursor.takenAll operations ++ (cursor.after operations).rest = cursor.rest := by
  induction operations generalizing cursor with
  | nil => rfl
  | cons operation more ih =>
      have hmoves := perform_moves_taken cursor operation
      calc cursor.takenAll (operation :: more) ++ (cursor.after (operation :: more)).rest
          = cursor.taken operation ++ ((cursor.perform operation).2.takenAll more ++
              ((cursor.perform operation).2.after more).rest) := by
            rw [takenAll, List.append_assoc]
            rfl
        _ = cursor.taken operation ++ (cursor.perform operation).2.rest := by rw [ih]
        _ = cursor.rest := hmoves.rest.symm

/-- After any operations on the records of a snippet, the next one moves on within them; they are
exhausted exactly when all are consumed; what it takes is what it admits of the record in front, and
what it returns is for that; draining takes all that is left. An operation reaches the line of the
cursor, and skipping a blank reaches the next one where there is a next one. What has been taken, in
order, and what a last draining returns are the records of the snippet. -/
theorem operations_faithful (source : String) (operations : List Operation) (operation : Operation) :
    let records := scan source
    let cursor := (ofRecords records).after operations
    let next := (cursor.perform operation).2
    (cursor.consumed ≤ next.consumed ∧ next.consumed ≤ records.length) ∧
      (cursor.isExhausted = true ↔ cursor.consumed = records.length) ∧
      cursor.drain.1 = records.drop cursor.consumed ∧
      cursor.taken operation = operation.takes cursor.line (records.drop cursor.consumed) ∧
      (cursor.perform operation).1 = operation.answer (cursor.taken operation) ∧
      (operation ≠ .drain → next.consumed ≤ cursor.consumed + 1 ∧
        ∀ record ∈ cursor.taken operation,
          record.line ≤ operation.reach cursor.line ∧ operation.wants record.remark = true) ∧
      (operation ≠ .skipBlank → operation.reach cursor.line = cursor.line.toNat) ∧
      operation.reach cursor.line ≤ cursor.line.toNat + 1 ∧
      (ofRecords records).takenAll operations ++ cursor.drain.1 = records := by
  intro records cursor next
  have hstands : StandsIn records cursor := (StandsIn.ofRecords records).after operations
  have hmoves := perform_moves_taken cursor operation
  have htaken : cursor.taken operation = operation.takes cursor.line cursor.rest :=
    taken_eq cursor operation
  refine ⟨⟨?_, (hstands.perform operation).bound⟩, hstands.isExhausted_iff, hstands.rest, ?_,
    hmoves.answer, ?_, fun h => Operation.reach_of_ne h, operation.reach_le cursor.line,
    takenAll_append_rest (ofRecords records) operations⟩
  · rw [hmoves.consumed]
    exact Nat.le_add_right _ _
  · rw [htaken, hstands.rest]
  · intro hdrain
    constructor
    · have hlength := Operation.length_takes_le hdrain cursor.line cursor.rest
      rw [hmoves.consumed, htaken]
      omega
    · intro record hrecord
      rw [htaken] at hrecord
      exact Operation.admits_of_mem_takes hdrain hrecord

/-- The blank holds up the tail until it is skipped, which it is not from the greatest line, and the
tail waits for its line. -/
theorem operations_faithful_backwards :
    let cursor := (ofRecords (scan "\nx = 1  # b\n")).after
      [.prepare 9, .takeTail, .prepare (-1), .skipBlank, .takeTail, .prepare 0, .skipBlank, .takeTail,
        .prepare 2]
    cursor.consumed = 1 ∧ (cursor.perform .takeTail).1 = .tail (some "b") ∧
      (cursor.perform .takeTail).2.consumed ≤ cursor.consumed + 1 ∧
      ∀ record ∈ cursor.taken .takeTail, record.line ≤ 2 ∧ Operation.takeTail.wants record.remark := by
  intro cursor
  obtain ⟨-, -, -, -, -, hone, -⟩ := operations_faithful "\nx = 1  # b\n"
    [.prepare 9, .takeTail, .prepare (-1), .skipBlank, .takeTail, .prepare 0, .skipBlank, .takeTail,
      .prepare 2] .takeTail
  exact ⟨by decide, by decide, hone (by decide)⟩

end Snippet.Comment.Cursor
