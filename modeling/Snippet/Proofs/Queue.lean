import Mathlib.Data.List.Basic
import Snippet.Comment.Scan
import Snippet.Proofs.Cursor

/-!
# The queue of comments

The records of a snippet stand in a queue in the order of its lines. A line of code takes the pending
whole lines in front, then at most one line of `else`, then at most one tail. So a tail or a line of
`else` holds up what is behind it, and it is taken itself when no other one is in front of it.
-/

namespace Snippet.Comment

/-- The order of records: by their lines, and on one line the `else` first. -/
def Record.Before (first second : Record) : Prop :=
  first.line < second.line ∨
    first.line = second.line ∧ first.remark = .elseLine ∧ second.remark ≠ .elseLine

instance (first second : Record) : Decidable (first.Before second) :=
  inferInstanceAs (Decidable (_ ∨ _))

namespace Record.Before

theorem line_le {first second : Record} (h : first.Before second) : first.line ≤ second.line := by
  rcases h with hlt | ⟨heq, -, -⟩
  · omega
  · omega

theorem trans {first second third : Record} (h₁ : first.Before second)
    (h₂ : second.Before third) : first.Before third := by
  rcases h₁ with hlt | ⟨heq, helse, hother⟩
  · exact .inl (Nat.lt_of_lt_of_le hlt h₂.line_le)
  · rcases h₂ with hlt | ⟨-, hsecond, -⟩
    · exact .inl (heq ▸ hlt)
    · exact absurd hsecond hother

theorem irrefl (record : Record) : ¬record.Before record := by
  rintro (hlt | ⟨-, helse, hother⟩)
  · omega
  · exact hother helse

end Record.Before

theorem not_mem_of_before {record : Record} {later : List Record}
    (h : ∀ other ∈ later, record.Before other) : record ∉ later :=
  fun hmem => Record.Before.irrefl record (h record hmem)

/-! ### The records of a snippet are in order -/

theorem lineRemark_ne_elseLine (line : List Char) : lineRemark line ≠ some .elseLine := by
  intro h
  rw [lineRemark] at h
  split at h
  · next afterCode offset _ => cases afterCode <;> simp at h
  · split at h <;> simp at h

theorem line_of_mem_scanLine {number : Nat} {line : List Char} {record : Record}
    (h : record ∈ scanLine number line) : record.line = number := by
  rw [scanLine, List.mem_append] at h
  rcases h with helse | hremark
  · split at helse
    · rw [List.mem_singleton.mp helse]
    · cases helse
  · obtain ⟨remark, -, rfl⟩ : ∃ remark, lineRemark line = some remark ∧
        (⟨number, remark⟩ : Record) = record := by simpa using hremark
    rfl

theorem scanLine_ordered (number : Nat) (line : List Char) :
    (scanLine number line).Pairwise Record.Before := by
  rw [scanLine]
  cases hremark : lineRemark line with
  | none => split <;> simp
  | some remark =>
      have hother : remark ≠ .elseLine := by
        rintro rfl
        exact lineRemark_ne_elseLine line hremark
      split
      · have hbefore : Record.Before ⟨number, .elseLine⟩ ⟨number, remark⟩ := .inr ⟨rfl, rfl, hother⟩
        simpa using hbefore
      · simp

theorem line_ge_of_mem_scanFrom {number : Nat} {lines : List (List Char)} {record : Record}
    (h : record ∈ scanFrom number lines) : number ≤ record.line := by
  induction lines generalizing number with
  | nil => cases h
  | cons line rest ih =>
      rcases List.mem_append.mp h with hline | hrest
      · exact Nat.le_of_eq (line_of_mem_scanLine hline).symm
      · have := ih hrest
        omega

theorem scanFrom_ordered (number : Nat) (lines : List (List Char)) :
    (scanFrom number lines).Pairwise Record.Before := by
  induction lines generalizing number with
  | nil => exact .nil
  | cons line rest ih =>
      refine List.pairwise_append.mpr ⟨scanLine_ordered number line, ih (number + 1), ?_⟩
      intro first hfirst second hsecond
      have hline := line_of_mem_scanLine hfirst
      have hbelow := line_ge_of_mem_scanFrom hsecond
      exact .inl (by omega)

theorem scan_ordered (source : String) : (scan source).Pairwise Record.Before :=
  scanFrom_ordered 1 _

/-! ### What one line of code takes -/

/-- Whether a record is taken with a line of code only. -/
def Record.Blocks (record : Record) : Prop := record.remark.isWholeLine = false

instance (record : Record) : Decidable record.Blocks := inferInstanceAs (Decidable (_ = _))

def Remark.isElse : Remark → Bool
  | elseLine => true
  | _ => false

def Remark.isTail : Remark → Bool
  | tail _ => true
  | _ => false

/-- The records from the first that is not a pending whole line. -/
def pastOwn (line : Nat) : List Record → List Record
  | [] => []
  | record :: rest =>
    if record.line ≤ line ∧ record.remark.isWholeLine then pastOwn line rest else record :: rest

/-- The records without the first, when that is pending and of a kind. -/
def pastOne (kind : Remark → Bool) (line : Nat) : List Record → List Record
  | [] => []
  | record :: rest =>
    if record.line ≤ line ∧ kind record.remark then rest else record :: rest

/-- The records after a line of code. -/
def pastCode (line : Nat) (records : List Record) : List Record :=
  pastOne Remark.isTail line (pastOne Remark.isElse line (pastOwn line records))

namespace Cursor

theorem drop_ownRun (line : Nat) (records : List Record) :
    records.drop (ownRun line records).length = pastOwn line records := by
  induction records with
  | nil => rfl
  | cons record rest ih =>
      rw [ownRun, pastOwn]
      split
      · exact ih
      · rfl

theorem rest_flush (cursor : Cursor) : cursor.flush.2.rest = pastOwn cursor.line.toNat cursor.rest :=
  drop_ownRun cursor.line.toNat cursor.rest

theorem rest_takeElse (cursor : Cursor) :
    cursor.takeElse.2.rest = pastOne Remark.isElse cursor.line.toNat cursor.rest := by
  obtain ⟨consumed, rest, line⟩ := cursor
  cases rest with
  | nil => rfl
  | cons record rest =>
      obtain ⟨number, remark⟩ := record
      by_cases hline : number ≤ line.toNat <;>
        cases remark <;> simp [takeElse, pending, pastOne, hline, advance, Remark.isElse]

theorem rest_takeTail (cursor : Cursor) :
    cursor.takeTail.2.rest = pastOne Remark.isTail cursor.line.toNat cursor.rest := by
  obtain ⟨consumed, rest, line⟩ := cursor
  cases rest with
  | nil => rfl
  | cons record rest =>
      obtain ⟨number, remark⟩ := record
      by_cases hline : number ≤ line.toNat <;>
        cases remark <;> simp [takeTail, pending, pastOne, hline, advance, Remark.isTail]

/-- The operations of a line of code, one after another. -/
theorem rest_takeTail_takeElse_flush (cursor : Cursor) :
    cursor.flush.2.takeElse.2.takeTail.2.rest = pastCode cursor.line.toNat cursor.rest := by
  rw [rest_takeTail, line_takeElse, line_flush, rest_takeElse, line_flush, rest_flush]
  rfl

end Cursor

theorem pastOwn_sublist (line : Nat) (records : List Record) :
    (pastOwn line records).Sublist records := by
  induction records with
  | nil => exact .slnil
  | cons record rest ih =>
      rw [pastOwn]
      split
      · exact ih.cons record
      · exact .refl _

theorem mem_of_mem_pastOne {kind : Remark → Bool} {line : Nat} {records : List Record}
    {record : Record} (h : record ∈ pastOne kind line records) : record ∈ records := by
  cases records with
  | nil => exact h
  | cons first rest =>
      rw [pastOne] at h
      split at h
      · exact List.mem_cons_of_mem _ h
      · exact h

theorem pastOne_of_pos {kind : Remark → Bool} {line : Nat} {record : Record} (rest : List Record)
    (hline : record.line ≤ line) (hkind : kind record.remark = true) :
    pastOne kind line (record :: rest) = rest := by
  rw [pastOne, if_pos ⟨hline, hkind⟩]

theorem pastOne_of_neg {kind : Remark → Bool} (line : Nat) {record : Record} (rest : List Record)
    (hkind : kind record.remark = false) :
    pastOne kind line (record :: rest) = record :: rest := by
  rw [pastOne, if_neg]
  rintro ⟨-, hother⟩
  exact Bool.false_ne_true (hkind.symm.trans hother)

theorem Record.Blocks.isElse_or_isTail {record : Record} (h : record.Blocks) :
    record.remark.isElse = true ∨ record.remark.isElse = false ∧ record.remark.isTail = true := by
  obtain ⟨line, remark⟩ := record
  cases remark with
  | blank => cases h
  | own text => cases h
  | tail text => exact .inr ⟨rfl, rfl⟩
  | elseLine => exact .inl rfl

/-- A record that is behind the pending whole lines is behind one that holds it up, unless it is not
pending or holds up others itself. -/
theorem exists_blocks_of_mem_pastOwn {line : Nat} {records : List Record} {record : Record}
    (hordered : records.Pairwise Record.Before) (hline : record.line ≤ line)
    (hwhole : record.remark.isWholeLine = true) (h : record ∈ pastOwn line records) :
    ∃ blocking ∈ pastOwn line records, blocking.Blocks ∧ blocking.Before record := by
  induction records with
  | nil => cases h
  | cons first rest ih =>
      obtain ⟨hfirst, hrest⟩ := List.pairwise_cons.mp hordered
      rw [pastOwn] at h ⊢
      split at h
      · next hpending =>
          rw [if_pos hpending]
          exact ih hrest h
      · next hpending =>
          rw [if_neg hpending]
          rcases List.mem_cons.mp h with rfl | hmem
          · exact absurd ⟨hline, hwhole⟩ hpending
          · have hbefore := hfirst record hmem
            refine ⟨first, List.mem_cons_self, ?_, hbefore⟩
            refine Bool.eq_false_iff.mpr fun hfirstWhole => ?_
            exact hpending ⟨Nat.le_trans hbefore.line_le hline, hfirstWhole⟩

/-! ### Records that hold up others are taken in turn -/

/-- A line of `else` with a tail right behind it: one line of code takes both. -/
structure Record.Leads (records : List Record) (first second : Record) : Prop where
  isElse : first.remark.isElse = true
  isTail : second.remark.isTail = true
  adjacent : [first, second] <:+: records

/-- Where a record is in front, what comes right behind it in the queue does so here. -/
theorem Record.Leads.exists_eq_cons {records : List Record} {first second : Record}
    (h : first.Leads records second) (hordered : records.Pairwise Record.Before)
    {rest : List Record} (hsuffix : first :: rest <:+ records) : ∃ later, rest = second :: later := by
  obtain ⟨before, rfl⟩ := hsuffix
  obtain ⟨before', later, hsame⟩ := h.adjacent
  obtain ⟨-, hrest, hbefore⟩ := List.pairwise_append.mp hordered
  -- The first record stands in the queue once.
  have hnotBefore : first ∉ before := fun hmem =>
    Record.Before.irrefl first (hbefore first hmem first List.mem_cons_self)
  have hnotRest : first ∉ rest := not_mem_of_before (List.pairwise_cons.mp hrest).1
  rw [List.append_assoc] at hsame
  obtain ⟨-, -, hlater⟩ := (List.append_cons_inj_of_notMem hnotBefore hnotRest).mp hsame.symm
  exact ⟨later, hlater⟩

theorem not_mem_of_first {line : Nat} {record : Record} {rest : List Record}
    (hline : record.line ≤ line) (hblocks : record.Blocks)
    (hrest : ∀ other ∈ rest, record.Before other) :
    record ∉ pastOne Remark.isTail line (pastOne Remark.isElse line (record :: rest)) := by
  rcases hblocks.isElse_or_isTail with helse | ⟨hother, htail⟩
  · rw [pastOne_of_pos rest hline helse]
    exact fun hmem => not_mem_of_before hrest (mem_of_mem_pastOne hmem)
  · rw [pastOne_of_neg line rest hother, pastOne_of_pos rest hline htail]
    exact not_mem_of_before hrest

/-- A line of code takes a pending record that holds up others, unless another such record is in
front that it cannot take as well. -/
theorem not_mem_pastCode {line : Nat} {all records : List Record} {record : Record}
    (hall : all.Pairwise Record.Before) (hsuffix : records <:+ all) (hline : record.line ≤ line)
    (hblocks : record.Blocks)
    (hfront : ∀ other ∈ records, other.Blocks → other.Before record → other.Leads all record) :
    record ∉ pastCode line records := by
  induction records with
  | nil => exact List.not_mem_nil
  | cons first rest ih =>
      obtain ⟨hfirst, -⟩ := List.pairwise_cons.mp (hall.sublist hsuffix.sublist)
      rw [pastCode, pastOwn]
      split
      · exact ih ((List.suffix_cons first rest).trans hsuffix) fun other hother =>
          hfront other (List.mem_cons_of_mem _ hother)
      · next hpending =>
          intro hmem
          rcases List.mem_cons.mp (mem_of_mem_pastOne (mem_of_mem_pastOne hmem)) with rfl | hlater
          · exact not_mem_of_first hline hblocks hfirst hmem
          · have hbefore := hfirst record hlater
            have hreached := Nat.le_trans hbefore.line_le hline
            have hleads := hfront first List.mem_cons_self
              (Bool.eq_false_iff.mpr fun hwhole => hpending ⟨hreached, hwhole⟩) hbefore
            obtain ⟨later, rfl⟩ := hleads.exists_eq_cons hall hsuffix
            have hbehind := List.pairwise_cons.mp
              (List.pairwise_cons.mp (hall.sublist hsuffix.sublist)).2
            rw [pastOne_of_pos _ hreached hleads.isElse, pastOne_of_pos _ hline hleads.isTail] at hmem
            exact not_mem_of_before hbehind.1 hmem

end Snippet.Comment
