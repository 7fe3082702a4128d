import Snippet.Comment.Cursor

/-!
# What the operations of a cursor take

Every operation of a cursor takes a run of records off the front of those that are left: the leading
whole lines, at most one `else` line, at most one tail, or at most one blank line. Each lemma says
which records were taken and what was answered for them.
-/

namespace Snippet.Comment.Cursor

theorem exists_of_pending {cursor : Cursor} {remark : Remark} (h : cursor.pending = some remark) :
    ∃ record, cursor.rest = record :: cursor.advance.rest ∧ record.line ≤ cursor.line.toNat ∧
      record.remark = remark := by
  obtain ⟨consumed, rest, line⟩ := cursor
  cases rest with
  | nil => simp [pending] at h
  | cons record rest =>
      by_cases hline : record.line ≤ line.toNat
      · exact ⟨record, rfl, hline, by simpa [pending, hline] using h⟩
      · simp [pending, hline] at h

theorem ownRun_append_drop (line : Nat) (records : List Record) :
    ownRun line records ++ records.drop (ownRun line records).length = records := by
  fun_induction ownRun line records with
  | case1 => rfl
  | case2 record rest hrecord ih => simpa using ih
  | case3 => simp

theorem isWholeLine_of_mem_ownRun {line : Nat} {records : List Record} {record : Record}
    (h : record ∈ ownRun line records) : record.remark.isWholeLine = true := by
  fun_induction ownRun line records with
  | case1 => simp at h
  | case2 first rest hfirst ih =>
      rcases List.mem_cons.mp h with rfl | hrest
      · exact hfirst.2
      · exact ih hrest
  | case3 => simp at h

theorem line_le_of_mem_ownRun {line : Nat} {records : List Record} {record : Record}
    (h : record ∈ ownRun line records) : record.line ≤ line := by
  fun_induction ownRun line records with
  | case1 => simp at h
  | case2 first rest hfirst ih =>
      rcases List.mem_cons.mp h with rfl | hrest
      · exact hfirst.1
      · exact ih hrest
  | case3 => simp at h

theorem exists_flush (cursor : Cursor) :
    ∃ own : List Record, cursor.rest = own ++ cursor.flush.2.rest ∧
      cursor.flush.1 = own.map (·.remark.text?) ∧
      (∀ record ∈ own, record.remark.isWholeLine = true) ∧
      ∀ record ∈ own, record.line ≤ cursor.line.toNat :=
  ⟨ownRun cursor.line.toNat cursor.rest, (ownRun_append_drop _ _).symm, rfl,
    fun _ h => isWholeLine_of_mem_ownRun h, fun _ h => line_le_of_mem_ownRun h⟩

theorem exists_takeElse (cursor : Cursor) :
    ∃ marker : Option Record, cursor.rest = marker.toList ++ cursor.takeElse.2.rest ∧
      ∀ record ∈ marker, record.remark = .elseLine := by
  rw [takeElse]
  split
  · next hpending =>
      obtain ⟨record, hrest, -, hremark⟩ := exists_of_pending hpending
      exact ⟨some record, by simpa using hrest, by simpa using hremark⟩
  · exact ⟨none, rfl, by simp⟩

theorem exists_takeTail (cursor : Cursor) :
    ∃ tail : Option Record, cursor.rest = tail.toList ++ cursor.takeTail.2.rest ∧
      cursor.takeTail.1 = tail.bind (·.remark.text?) ∧
      (∀ record ∈ tail, ∃ text, record.remark = .tail text) ∧
      ∀ record ∈ tail, record.line ≤ cursor.line.toNat := by
  rw [takeTail]
  split
  · next text hpending =>
      obtain ⟨record, hrest, hline, hremark⟩ := exists_of_pending hpending
      exact ⟨some record, by simpa using hrest, by simp [hremark, Remark.text?],
        by simpa using ⟨text, hremark⟩, by simpa using hline⟩
  · exact ⟨none, rfl, rfl, by simp, by simp⟩

theorem skipBlank_cons (consumed : Nat) (record : Record) (rest : List Record) (line : UInt64) :
    skipBlank ⟨consumed, record :: rest, line⟩ =
      if record.line ≤ (line + 1).toNat ∧ record.remark = .blank then ⟨consumed + 1, rest, line⟩
      else ⟨consumed, record :: rest, line⟩ := rfl

theorem exists_skipBlank (cursor : Cursor) :
    ∃ blank : Option Record, cursor.rest = blank.toList ++ cursor.skipBlank.rest ∧
      ∀ record ∈ blank, record.remark = .blank := by
  obtain ⟨consumed, rest, line⟩ := cursor
  cases rest with
  | nil => exact ⟨none, rfl, by simp⟩
  | cons record rest =>
      by_cases hblank : record.line ≤ (line + 1).toNat ∧ record.remark = .blank
      · exact ⟨some record, by rw [skipBlank_cons, if_pos hblank]; rfl, by simpa using hblank.2⟩
      · exact ⟨none, by rw [skipBlank_cons, if_neg hblank]; rfl, by simp⟩

/-! The line that is reached stays the same. -/

theorem line_advance (cursor : Cursor) : cursor.advance.line = cursor.line := by
  obtain ⟨consumed, rest, line⟩ := cursor
  cases rest <;> rfl

theorem line_flush (cursor : Cursor) : cursor.flush.2.line = cursor.line := rfl

theorem line_takeElse (cursor : Cursor) : cursor.takeElse.2.line = cursor.line := by
  rw [takeElse]
  split
  · exact line_advance cursor
  · rfl

theorem line_takeTail (cursor : Cursor) : cursor.takeTail.2.line = cursor.line := by
  rw [takeTail]
  split
  · exact line_advance cursor
  · rfl

theorem line_skipBlank (cursor : Cursor) : cursor.skipBlank.line = cursor.line := by
  rw [skipBlank]
  split
  · split
    · exact line_advance cursor
    · rfl
  · rfl

/-- Without records no operation finds anything. -/
theorem takeTail_of_rest_nil {cursor : Cursor} (h : cursor.rest = []) :
    cursor.takeTail = (none, cursor) := by
  simp [takeTail, pending, h]

theorem takeElse_of_rest_nil {cursor : Cursor} (h : cursor.rest = []) :
    cursor.takeElse = (false, cursor) := by
  simp [takeElse, pending, h]

theorem flush_of_rest_nil {cursor : Cursor} (h : cursor.rest = []) : cursor.flush = ([], cursor) := by
  obtain ⟨consumed, rest, line⟩ := cursor
  cases h
  rfl

theorem skipBlank_of_rest_nil {cursor : Cursor} (h : cursor.rest = []) :
    cursor.skipBlank = cursor := by
  simp [skipBlank, h]

/-! What is flushed is taken one record at a time, until there is none. -/

/-- Whole lines taken one after another, until none is in front. -/
inductive TakesOwn : Cursor → List (Option String) → Cursor → Prop where
  | none {cursor : Cursor} (h : cursor.nextOwn.1 = none) : TakesOwn cursor [] cursor
  | next {cursor next last : Cursor} {text : Option String} {more : List (Option String)}
      (h : cursor.nextOwn = (some text, next)) (hmore : TakesOwn next more last) :
      TakesOwn cursor (text :: more) last

theorem nextOwn_cons (consumed : Nat) (record : Record) (rest : List Record) (line : UInt64) :
    nextOwn ⟨consumed, record :: rest, line⟩ =
      if record.line ≤ line.toNat ∧ record.remark.isWholeLine then
        (some record.remark.text?, ⟨consumed + 1, rest, line⟩)
      else (none, ⟨consumed, record :: rest, line⟩) := by
  obtain ⟨recordLine, remark⟩ := record
  by_cases hline : recordLine ≤ line.toNat
  · cases remark <;> simp [nextOwn, pending, advance, hline, Remark.isWholeLine, Remark.text?]
  · simp [nextOwn, pending, hline]

theorem flush_cons {record : Record} {line : UInt64}
    (h : record.line ≤ line.toNat ∧ record.remark.isWholeLine = true) (consumed : Nat)
    (rest : List Record) :
    flush ⟨consumed, record :: rest, line⟩ =
      (record.remark.text? :: (flush ⟨consumed + 1, rest, line⟩).1,
        (flush ⟨consumed + 1, rest, line⟩).2) := by
  have hrun : ownRun line.toNat (record :: rest) = record :: ownRun line.toNat rest := if_pos h
  have hcount : consumed + ((ownRun line.toNat rest).length + 1) =
      consumed + 1 + (ownRun line.toNat rest).length := by omega
  simp [flush, hrun, hcount]

theorem flush_of_not {record : Record} {line : UInt64}
    (h : ¬(record.line ≤ line.toNat ∧ record.remark.isWholeLine = true)) (consumed : Nat)
    (rest : List Record) :
    flush ⟨consumed, record :: rest, line⟩ = ([], ⟨consumed, record :: rest, line⟩) := by
  have hrun : ownRun line.toNat (record :: rest) = [] := if_neg h
  simp [flush, hrun]

theorem takesOwn_flush (cursor : Cursor) : TakesOwn cursor cursor.flush.1 cursor.flush.2 := by
  obtain ⟨consumed, rest, line⟩ := cursor
  induction rest generalizing consumed with
  | nil => exact .none rfl
  | cons record rest ih =>
      by_cases hrecord : record.line ≤ line.toNat ∧ record.remark.isWholeLine = true
      · rw [flush_cons hrecord]
        exact .next (by rw [nextOwn_cons, if_pos hrecord]) (ih (consumed + 1))
      · rw [flush_of_not hrecord]
        exact .none (by rw [nextOwn_cons, if_neg hrecord])

end Snippet.Comment.Cursor
