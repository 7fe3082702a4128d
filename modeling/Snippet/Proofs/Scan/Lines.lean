import Snippet.Proofs.Scan.Remarks

/-!
# The records of a line

A scan goes through the physical lines of a source one after another. A line leaves one record at
most, and one more in front of it where it is a line of `else` with a tail. The text of a comment is
cut out of the line at a byte that was counted in the covered line; as covering keeps the bytes of
every literal, this byte is always the first one of a character.
-/

namespace Snippet.Comment

open Text

/-! ### Lines of `else` -/

theorem head?_of_startsElse {line : List Char} (h : startsElse line = true) :
    (dropBlanks line).head? = some 'e' := by
  unfold startsElse at h
  cases hcode : dropBlanks line with
  | nil =>
      rw [hcode] at h
      exact absurd h (by decide)
  | cons c rest =>
      rw [hcode] at h
      have hfirst : c = 'e' := by
        rcases Bool.or_eq_true_iff.mp h with helse | helif
        · exact (beq_iff_eq.mp (Bool.and_eq_true_iff.mp helse).1).symm
        · obtain ⟨helif, -⟩ := Bool.and_eq_true_iff.mp helif
          exact (beq_iff_eq.mp (Bool.and_eq_true_iff.mp helif).1).symm
      rw [hfirst]
      rfl

theorem not_isBlankLine_of_startsElse {line : List Char} (h : startsElse line = true) :
    isBlankLine line = false := by
  rw [Bool.eq_false_iff]
  intro hblank
  have hhead := head?_of_startsElse h
  rw [(dropBlanks_eq_nil_iff line).mpr hblank] at hhead
  cases hhead

/-- The comment on a line of `else` is behind its code. -/
theorem exists_tail_of_startsElse {line : List Char} {remark : Remark}
    (h : startsElse line = true) (hremark : lineRemark line = some remark) :
    ∃ text, remark = .tail text := by
  obtain ⟨parts, hparts⟩ := exists_parted line
  by_cases hhash : Part.loose '#' ∈ parts
  · obtain ⟨before, after, rfl, hlast⟩ := exists_last_hash hhash
    have hcode : isBlankLine (before.flatMap Part.text) = false := by
      rw [Bool.eq_false_iff]
      intro hblank
      have hhead := head?_of_startsElse h
      rw [← hparts.flatMap_text, List.flatMap_append, List.flatMap_cons, Part.text,
        List.singleton_append, dropBlanks_append_hash, (dropBlanks_eq_nil_iff _).mpr hblank]
        at hhead
      exact absurd (Option.some.inj hhead) (by decide)
    rw [hparts.lineRemark_eq hlast, hcode] at hremark
    exact ⟨_, (Option.some.inj hremark).symm⟩
  · rw [hparts.lineRemark_eq_blank hhash, not_isBlankLine_of_startsElse h] at hremark
    cases hremark

theorem lineRemark_of_isBlankLine {line : List Char} (h : isBlankLine line = true) :
    lineRemark line = some .blank := by
  have hhash : '#' ∉ line := fun hmem =>
    absurd (List.all_eq_true.mp h '#' hmem) (by decide)
  obtain ⟨parts, hparts⟩ := exists_parted line
  have hnone : Part.loose '#' ∉ parts := by
    intro hmem
    apply hhash
    rw [← hparts.flatMap_text]
    exact List.mem_flatMap.mpr ⟨_, hmem, List.mem_singleton_self _⟩
  rw [hparts.lineRemark_eq_blank hnone, if_pos h]

theorem isBlankLine_of_lineRemark {line : List Char} (h : lineRemark line = some .blank) :
    isBlankLine line = true := by
  unfold lineRemark at h
  split at h
  · next afterCode offset _ => cases afterCode <;> simp at h
  · split at h
    · assumption
    · cases h

/-! ### The records of one line -/

theorem filter_scanLine_self (number : Nat) (line : List Char) :
    (scanLine number line).filter (·.line = number) = scanLine number line :=
  List.filter_eq_self.mpr fun _ hrecord => decide_eq_true (line_of_mem_scanLine hrecord)

theorem filter_scanLine_of_ne {number other : Nat} (h : number ≠ other) (line : List Char) :
    (scanLine number line).filter (·.line = other) = [] := by
  refine List.filter_eq_nil_iff.mpr fun record hrecord => ?_
  rw [line_of_mem_scanLine hrecord, decide_eq_true_iff]
  exact h

theorem filter_scanFrom {number index : Nat} {lines : List (List Char)} {line : List Char}
    (h : lines[index]? = some line) :
    (scanFrom number lines).filter (·.line = number + index) = scanLine (number + index) line := by
  induction lines generalizing number index with
  | nil => cases h
  | cons first rest ih =>
      rw [scanFrom, List.filter_append]
      cases index with
      | zero =>
          obtain rfl := Option.some.inj h
          have hlater : (scanFrom (number + 1) rest).filter (·.line = number) = [] := by
            refine List.filter_eq_nil_iff.mpr fun record hrecord => ?_
            have hline := line_ge_of_mem_scanFrom hrecord
            rw [decide_eq_true_iff]
            omega
          rw [Nat.add_zero, filter_scanLine_self, hlater, List.append_nil]
      | succ index =>
          have hnumber : number + (index + 1) = number + 1 + index := by omega
          rw [hnumber, ih h, filter_scanLine_of_ne (by omega), List.nil_append]

/-- The records on a physical line are those that the line has by itself. -/
theorem filter_scan {source : String} {index : Nat} {line : List Char}
    (h : (physicalLines source.toList)[index]? = some line) :
    (scan source).filter (·.line = index + 1) = scanLine (index + 1) line := by
  rw [scan, Nat.add_comm index 1]
  exact filter_scanFrom h

/-- Records as one physical line can have them. -/
structure OnLine (number : Nat) (line : List Char) (records : List Record) : Prop where
  length_le : records.length ≤ 2
  pair : ∀ first second, records = [first, second] →
    first.remark = .elseLine ∧ ∃ text, second.remark = .tail text
  blank_iff : ⟨number, .blank⟩ ∈ records ↔ ∀ c ∈ line, isBlank c = true
  /-- The byte where a comment starts is the first one of a character or the end of the line. -/
  boundary : ∀ afterCode offset, commentStart (maskLiterals line) = some (afterCode, offset) →
    ∃ before text, line = before ++ text ∧ byteLength before = offset ∧
      suffixAt offset line = some text
  /-- The text of a comment is cut out there, and it is what stands behind a number sign and at most
  one space. -/
  sliced : ∀ record ∈ records, ∀ text, record.remark.text? = some text →
    ∃ afterCode offset before after,
      commentStart (maskLiterals line) = some (afterCode, offset) ∧
        suffixAt offset line = some text.toList ∧
          line = before ++ '#' :: after ∧ text.toList = dropSpace after

theorem exists_commentStart_of_some {line : List Char} {afterCode : Bool} {offset : Nat}
    (h : commentStart (maskLiterals line) = some (afterCode, offset)) :
    ∃ before space after : List Char, line = before ++ '#' :: after ∧
      after = space ++ dropSpace after ∧ byteLength (before ++ '#' :: space) = offset ∧
        suffixAt offset line = some (dropSpace after) := by
  obtain ⟨parts, hparts⟩ := exists_parted line
  by_cases hhash : Part.loose '#' ∈ parts
  · obtain ⟨before, after, rfl, hlast⟩ := exists_last_hash hhash
    obtain ⟨space, hspace, hstart⟩ := hparts.exists_commentStart hlast
    obtain ⟨-, rfl⟩ := Prod.mk.inj (Option.some.inj (hstart.symm.trans h))
    refine ⟨before.flatMap Part.text, space, after.flatMap Part.text, ?_, hspace, rfl,
      hparts.suffixAt_eq hspace⟩
    rw [← hparts.flatMap_text, List.flatMap_append, List.flatMap_cons]
    rfl
  · rw [hparts.commentStart_eq_none hhash] at h
    cases h

theorem commentStart_of_lineRemark {line : List Char} {remark : Remark} {text : String}
    (h : lineRemark line = some remark) (htext : remark.text? = some text) :
    ∃ afterCode offset, commentStart (maskLiterals line) = some (afterCode, offset) ∧
      text.toList = (suffixAt offset line).getD [] := by
  unfold lineRemark at h
  cases hstart : commentStart (maskLiterals line) with
  | none =>
      rw [hstart] at h
      dsimp only at h
      split at h
      · obtain rfl := Option.some.inj h
        cases htext
      · cases h
  | some start =>
      obtain ⟨afterCode, offset⟩ := start
      rw [hstart] at h
      obtain rfl := Option.some.inj h
      refine ⟨afterCode, offset, rfl, ?_⟩
      cases afterCode <;>
        (obtain rfl := Option.some.inj htext
         exact String.toList_ofList)

theorem onLine_scanLine (number : Nat) (line : List Char) :
    OnLine number line (scanLine number line) where
  length_le := by
    rw [scanLine, List.length_append]
    have helse :
        (if startsElse line = true then [(⟨number, .elseLine⟩ : Record)] else []).length ≤ 1 := by
      split <;> simp
    have hremark := Option.length_toList_le (o := (lineRemark line).map fun remark =>
      (⟨number, remark⟩ : Record))
    omega
  pair := by
    intro first second h
    rw [scanLine] at h
    cases hremark : lineRemark line with
    | none =>
        rw [hremark] at h
        split at h <;> cases h
    | some remark =>
        rw [hremark] at h
        split at h
        · next helse =>
            obtain ⟨rfl, hrest⟩ := List.cons.inj h
            obtain rfl := (List.cons.inj hrest).1
            exact ⟨rfl, exists_tail_of_startsElse helse hremark⟩
        · cases h
  blank_iff := by
    rw [← List.all_eq_true, ← isBlankLine]
    constructor
    · intro hmem
      rw [scanLine, List.mem_append] at hmem
      rcases hmem with helse | hremark
      · split at helse
        · cases List.mem_singleton.mp helse
        · cases helse
      · obtain ⟨remark, hline, hrecord⟩ : ∃ remark, lineRemark line = some remark ∧
            (⟨number, remark⟩ : Record) = ⟨number, .blank⟩ := by simpa using hremark
        obtain rfl := (Record.mk.inj hrecord).2
        exact isBlankLine_of_lineRemark hline
    · intro hblank
      exact mem_scanLine_of_lineRemark (lineRemark_of_isBlankLine hblank)
  boundary := by
    intro afterCode offset h
    obtain ⟨before, space, after, hline, hspace, hoffset, hsuffix⟩ := exists_commentStart_of_some h
    refine ⟨before ++ '#' :: space, dropSpace after, ?_, hoffset, hsuffix⟩
    rw [List.append_assoc, List.cons_append, ← hspace]
    exact hline
  sliced := by
    intro record hrecord text htext
    have hremark := lineRemark_of_mem_scanLine hrecord htext
    obtain ⟨afterCode, offset, hstart, hcut⟩ := commentStart_of_lineRemark hremark htext
    obtain ⟨before, space, after, hline, -, -, hsuffix⟩ := exists_commentStart_of_some hstart
    rw [hsuffix, Option.getD_some] at hcut
    exact ⟨afterCode, offset, before, after, hstart, hcut ▸ hsuffix, hline, hcut⟩

/-! ### The records of a source -/

theorem line_of_mem_scan {source : String} {record : Record} (h : record ∈ scan source) :
    1 ≤ record.line ∧ record.line ≤ (physicalLines source.toList).length := by
  obtain ⟨index, line, hline, hrecord⟩ := mem_scan_iff.mp h
  obtain ⟨hbound, -⟩ := List.getElem?_eq_some_iff.mp hline
  rw [line_of_mem_scanLine hrecord]
  omega

/-- **The records of a scan.** They come in the order of their lines, all of which are lines of the
source. A line has two records only where it is a line of `else` with a tail, and a blank one
exactly where it is white space. Every text is cut out of its line between two characters. -/
theorem scan_onLine (source : String) :
    ((scan source).map Record.line).Pairwise (· ≤ ·) ∧
      (∀ record ∈ scan source,
        1 ≤ record.line ∧ record.line ≤ (physicalLines source.toList).length) ∧
      ∀ index line, (physicalLines source.toList)[index]? = some line →
        OnLine (index + 1) line ((scan source).filter (·.line = index + 1)) := by
  refine ⟨?_, fun record hrecord => line_of_mem_scan hrecord, fun index line hline => ?_⟩
  · rw [List.pairwise_map]
    exact (scan_ordered source).imp fun hbefore => hbefore.line_le
  · rw [filter_scan hline]
    exact onLine_scanLine (index + 1) line

/-- A literal with characters of several bytes stands in front of one comment, and a line of `else`
in front of another. -/
theorem scan_onLine_bytes :
    let source := "s = 'é#'  # ü\nelse: # a\n \t\n"
    ((physicalLines source.toList)[0]? = some "s = 'é#'  # ü".toList ∧
      (⟨1, .tail "ü"⟩ : Record) ∈ scan source) ∧
    OnLine 1 "s = 'é#'  # ü".toList ((scan source).filter (·.line = 0 + 1)) ∧
      1 ≤ (⟨1, .tail "ü"⟩ : Record).line := by
  intro source
  have hline : (physicalLines source.toList)[0]? = some "s = 'é#'  # ü".toList := by
    decide +kernel
  have hmem : (⟨1, .tail "ü"⟩ : Record) ∈ scan source := by decide +kernel
  obtain ⟨-, hlines, honLine⟩ := scan_onLine source
  exact ⟨⟨hline, hmem⟩, honLine 0 _ hline, (hlines _ hmem).1⟩

end Snippet.Comment
