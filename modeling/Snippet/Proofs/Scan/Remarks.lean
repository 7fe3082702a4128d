import Mathlib.Data.List.Basic
import Snippet.Proofs.Queue
import Snippet.Proofs.Scan.Literals

/-!
# Where the comment of a line starts

The comment of a line starts at its last loose number sign, and it is a tail when anything but
white space stands in front of that sign. So the number signs of literals start no comment, and a
line with any other one has a comment. But a sign that is not the last one counts as code: a comment
with a second number sign is a tail also on a line of its own.
-/

namespace Snippet.Comment

open Text

/-- A text without the space at its front, if one is there. -/
def dropSpace : List Char → List Char
  | ' ' :: rest => rest
  | text => text

/-! ### The last number sign -/

theorem splitAtLastHash_eq_none {text : List Char} (h : '#' ∉ text) :
    splitAtLastHash text = none := by
  induction text with
  | nil => rfl
  | cons c rest ih =>
      obtain ⟨hc, hrest⟩ : '#' ≠ c ∧ '#' ∉ rest := by simpa using h
      rw [splitAtLastHash, ih hrest]
      exact if_neg (Ne.symm hc)

theorem splitAtLastHash_append {before after : List Char} (h : '#' ∉ after) :
    splitAtLastHash (before ++ '#' :: after) = some (before, after) := by
  induction before with
  | nil => rw [List.nil_append, splitAtLastHash, splitAtLastHash_eq_none h]; rfl
  | cons c rest ih => rw [List.cons_append, splitAtLastHash, ih]

theorem dropBlanks_append_hash (before after : List Char) :
    dropBlanks (before ++ '#' :: after) = dropBlanks before ++ '#' :: after := by
  induction before with
  | nil => rfl
  | cons c rest ih =>
      rw [dropBlanks] at *
      rw [List.cons_append, dropBlanks, List.dropWhile_cons, List.dropWhile_cons, ih]
      split
      · rfl
      · rfl

theorem exists_last_hash {parts : List Part} (h : Part.loose '#' ∈ parts) :
    ∃ before after, parts = before ++ .loose '#' :: after ∧ Part.loose '#' ∉ after := by
  obtain ⟨after, before, hsplit, hnone⟩ := List.eq_append_cons_of_mem (List.mem_reverse.mpr h)
  refine ⟨before.reverse, after.reverse, ?_, by simpa using hnone⟩
  rw [← List.reverse_reverse parts, hsplit]
  simp

/-! ### The covered line -/

theorem hash_not_mem_covered {parts : List Part} (h : Part.loose '#' ∉ parts) :
    '#' ∉ parts.flatMap Part.covered := by
  rintro hmem
  obtain ⟨part, hpart, hc⟩ := List.mem_flatMap.mp hmem
  cases part with
  | loose c =>
      obtain rfl := List.mem_singleton.mp hc
      exact h hpart
  | literal text => exact absurd (List.eq_of_mem_replicate hc) (by decide)

/-- A literal is no white space, as it is written or covered. -/
theorem IsLiteral.isBlankLine_eq_false {text : List Char} (h : IsLiteral text) :
    isBlankLine text = false ∧ isBlankLine (List.replicate (byteLength text) '_') = false := by
  obtain ⟨quote, inside, rfl, hquote, -⟩ := exists_closingLength_of_literal h []
  rcases (by simpa [isQuote] using hquote : quote = '"' ∨ quote = '\'') with rfl | rfl
  all_goals
    rw [byteLength, Nat.add_comm]
    exact ⟨rfl, rfl⟩

theorem isBlankLine_append (first second : List Char) :
    isBlankLine (first ++ second) = (isBlankLine first && isBlankLine second) := List.all_append

theorem isBlankLine_covered {parts : List Part}
    (h : ∀ text, Part.literal text ∈ parts → IsLiteral text) :
    isBlankLine (parts.flatMap Part.covered) = isBlankLine (parts.flatMap Part.text) := by
  induction parts with
  | nil => rfl
  | cons part rest ih =>
      have hrest := ih fun text htext => h text (List.mem_cons_of_mem _ htext)
      rw [List.flatMap_cons, List.flatMap_cons, isBlankLine_append, isBlankLine_append, hrest]
      cases part with
      | loose c => rfl
      | literal text =>
          obtain ⟨hwritten, hcovered⟩ := (h text List.mem_cons_self).isBlankLine_eq_false
          rw [Part.covered, Part.text, hwritten, hcovered]

theorem dropSpace_cons {c : Char} (h : c ≠ ' ') (rest : List Char) :
    dropSpace (c :: rest) = c :: rest := by
  rw [dropSpace.eq_def]
  split
  · next heq => exact absurd (List.cons.inj heq).1 h
  · rfl

/-- A space that is dropped in the covered line is the one that is dropped in the line. -/
theorem exists_dropSpace {parts : List Part}
    (h : ∀ text, Part.literal text ∈ parts → IsLiteral text) :
    ∃ space, parts.flatMap Part.text = space ++ dropSpace (parts.flatMap Part.text) ∧
      parts.flatMap Part.covered = space ++ dropSpace (parts.flatMap Part.covered) := by
  cases parts with
  | nil => exact ⟨[], rfl, rfl⟩
  | cons part rest =>
      rw [List.flatMap_cons, List.flatMap_cons]
      cases part with
      | loose c =>
          by_cases hc : c = ' '
          · subst hc
            exact ⟨[' '], rfl, rfl⟩
          · refine ⟨[], ?_, ?_⟩
            all_goals exact (dropSpace_cons hc _).symm
      | literal text =>
          obtain ⟨quote, inside, rfl, hquote, -⟩ :=
            exists_closingLength_of_literal (h text List.mem_cons_self) []
          have hspace : quote ≠ ' ' := by
            rintro rfl
            exact absurd hquote (by decide)
          obtain ⟨count, hcount⟩ : ∃ count, byteLength (quote :: inside) = count + 1 :=
            Nat.exists_eq_succ_of_ne_zero (by rw [byteLength]; have := quote.utf8Size_pos; omega)
          refine ⟨[], (dropSpace_cons hspace _).symm, ?_⟩
          rw [Part.covered, hcount]
          exact (dropSpace_cons (by decide) _).symm

/-! ### The remark of a line -/

theorem suffixAt_byteLength (before after : List Char) :
    suffixAt (byteLength before) (before ++ after) = some after := by
  induction before with
  | nil => rw [List.nil_append, byteLength, suffixAt.eq_def]
  | cons c rest ih =>
      obtain ⟨size, hsize⟩ := Nat.exists_eq_succ_of_ne_zero (Nat.ne_of_gt c.utf8Size_pos)
      have hoffset : byteLength (c :: rest) = size + byteLength rest + 1 := by
        rw [byteLength, hsize]
        omega
      rw [hoffset, List.cons_append, suffixAt, if_pos (by omega), hsize]
      rw [← ih]
      congr 1
      omega

/-- Without a loose number sign no comment starts. -/
theorem Parted.commentStart_eq_none {line : List Char} {parts : List Part} (h : Parted line parts)
    (hnone : Part.loose '#' ∉ parts) : commentStart (maskLiterals line) = none := by
  have hcovered : '#' ∉ dropBlanks (maskLiterals line) := fun hmem =>
    hash_not_mem_covered hnone (h.maskLiterals_eq ▸ List.dropWhile_subset _ hmem)
  rw [commentStart, splitAtLastHash_eq_none hcovered]
  rfl

/-- Without a loose number sign a line has no comment. -/
theorem Parted.lineRemark_eq_blank {line : List Char} {parts : List Part} (h : Parted line parts)
    (hnone : Part.loose '#' ∉ parts) :
    lineRemark line = if isBlankLine line then some .blank else none := by
  rw [lineRemark, h.commentStart_eq_none hnone]

/-- A comment starts behind the last loose number sign and at most one space, at the byte where its
text stands in the line. -/
theorem Parted.exists_commentStart {line : List Char} {before after : List Part}
    (h : Parted line (before ++ .loose '#' :: after)) (hlast : Part.loose '#' ∉ after) :
    ∃ space, after.flatMap Part.text = space ++ dropSpace (after.flatMap Part.text) ∧
      commentStart (maskLiterals line) =
        some (!isBlankLine (before.flatMap Part.text),
          byteLength (before.flatMap Part.text ++ '#' :: space)) := by
  have hliteral : ∀ text, Part.literal text ∈ before ++ .loose '#' :: after → IsLiteral text :=
    fun _ => h.isLiteral_of_mem
  have hmasked : dropBlanks (maskLiterals line) =
      dropBlanks (before.flatMap Part.covered) ++ '#' :: after.flatMap Part.covered := by
    rw [h.maskLiterals_eq, List.flatMap_append, List.flatMap_cons, Part.covered,
      List.singleton_append, dropBlanks_append_hash]
  have hcode : (!(dropBlanks (before.flatMap Part.covered)).isEmpty) =
      !isBlankLine (before.flatMap Part.text) := by
    rw [← isBlankLine_covered fun text htext => hliteral text (List.mem_append_left _ htext)]
    rw [Bool.not_inj_iff, Bool.eq_iff_iff, List.isEmpty_iff, dropBlanks_eq_nil_iff]
  obtain ⟨space, htext, hcovered⟩ := exists_dropSpace fun text htext =>
    hliteral text (List.mem_append_right _ (List.mem_cons_of_mem _ htext))
  -- The offset is that of the same text in the line, as covering keeps the bytes.
  have hoffset : byteLength (maskLiterals line) -
      byteLength (dropSpace (after.flatMap Part.covered)) =
        byteLength (before.flatMap Part.text ++ '#' :: space) := by
    have hbefore := byteLength_covered before
    have hafter := congrArg byteLength hcovered
    rw [byteLength_append] at hafter
    rw [h.maskLiterals_eq, List.flatMap_append, List.flatMap_cons, Part.covered]
    simp only [byteLength_append, byteLength, List.cons_append, List.nil_append]
    omega
  refine ⟨space, htext, ?_⟩
  rw [commentStart, hmasked, splitAtLastHash_append (hash_not_mem_covered hlast), ← hcode,
    ← hoffset]
  rfl

/-- What stands in a line behind its last loose number sign and at most one space. -/
theorem Parted.suffixAt_eq {line space : List Char} {before after : List Part}
    (h : Parted line (before ++ .loose '#' :: after))
    (hspace : after.flatMap Part.text = space ++ dropSpace (after.flatMap Part.text)) :
    suffixAt (byteLength (before.flatMap Part.text ++ '#' :: space)) line =
      some (dropSpace (after.flatMap Part.text)) := by
  have hline : line = (before.flatMap Part.text ++ '#' :: space) ++
      dropSpace (after.flatMap Part.text) := by
    rw [List.append_assoc, List.cons_append, ← hspace, ← h.flatMap_text, List.flatMap_append,
      List.flatMap_cons]
    rfl
  conv_lhs => rw [hline]
  exact suffixAt_byteLength _ _

/-- The comment of a line is what follows its last loose number sign. -/
theorem Parted.lineRemark_eq {line : List Char} {before after : List Part}
    (h : Parted line (before ++ .loose '#' :: after)) (hlast : Part.loose '#' ∉ after) :
    lineRemark line =
      let text := String.ofList (dropSpace (after.flatMap Part.text))
      some (if isBlankLine (before.flatMap Part.text) then .own text else .tail text) := by
  obtain ⟨space, hspace, hstart⟩ := h.exists_commentStart hlast
  rw [lineRemark, hstart]
  dsimp only
  rw [h.suffixAt_eq hspace, Option.getD_some]
  cases isBlankLine (before.flatMap Part.text) <;> rfl

/-- The text of a comment and whether it is a tail, by the last loose number sign of its line. -/
theorem Parted.comment_spec {line : List Char} {before after : List Part} {remark : Remark}
    {text : String} (h : Parted line (before ++ .loose '#' :: after))
    (hlast : Part.loose '#' ∉ after) (hremark : lineRemark line = some remark)
    (htext : remark.text? = some text) :
    text = String.ofList (dropSpace (after.flatMap Part.text)) ∧
      (remark = .tail text ↔ isBlankLine (before.flatMap Part.text) = false) := by
  rw [h.lineRemark_eq hlast] at hremark
  obtain rfl := Option.some.inj hremark
  cases hblank : isBlankLine (before.flatMap Part.text) with
  | true =>
      obtain rfl := Option.some.inj (hblank ▸ htext)
      simp
  | false =>
      obtain rfl := Option.some.inj (hblank ▸ htext)
      simp

theorem Parted.hash_mem_of_comment {line : List Char} {parts : List Part} {remark : Remark}
    {text : String} (h : Parted line parts) (hremark : lineRemark line = some remark)
    (htext : remark.text? = some text) : Part.loose '#' ∈ parts := by
  by_contra hnone
  rw [h.lineRemark_eq_blank hnone] at hremark
  split at hremark
  · obtain rfl := Option.some.inj hremark
    cases htext
  · cases hremark

/-! ### The records of a line -/

theorem mem_scanFrom_iff {number : Nat} {lines : List (List Char)} {record : Record} :
    record ∈ scanFrom number lines ↔
      ∃ index line, lines[index]? = some line ∧ record ∈ scanLine (number + index) line := by
  induction lines generalizing number with
  | nil => simp [scanFrom]
  | cons line rest ih =>
      rw [scanFrom, List.mem_append, ih]
      constructor
      · rintro (hline | ⟨index, later, hlater, hrecord⟩)
        · exact ⟨0, line, rfl, hline⟩
        · refine ⟨index + 1, later, hlater, ?_⟩
          rwa [← Nat.add_assoc, Nat.add_right_comm]
      · rintro ⟨index, later, hlater, hrecord⟩
        cases index with
        | zero =>
            obtain rfl := Option.some.inj hlater
            exact .inl hrecord
        | succ index =>
            refine .inr ⟨index, later, hlater, ?_⟩
            rwa [Nat.add_right_comm, Nat.add_assoc]

theorem mem_scan_iff {source : String} {record : Record} :
    record ∈ scan source ↔ ∃ index line, (physicalLines source.toList)[index]? = some line ∧
      record ∈ scanLine (index + 1) line := by
  rw [scan, mem_scanFrom_iff]
  simp only [Nat.add_comm 1]

theorem lineRemark_of_mem_scanLine {number : Nat} {line : List Char} {record : Record}
    {text : String} (h : record ∈ scanLine number line) (htext : record.remark.text? = some text) :
    lineRemark line = some record.remark := by
  rw [scanLine, List.mem_append] at h
  rcases h with helse | hremark
  · split at helse
    · obtain rfl := List.mem_singleton.mp helse
      cases htext
    · cases helse
  · obtain ⟨remark, hfound, rfl⟩ : ∃ remark, lineRemark line = some remark ∧
        (⟨number, remark⟩ : Record) = record := by simpa using hremark
    exact hfound

theorem mem_scanLine_of_lineRemark {number : Nat} {line : List Char} {remark : Remark}
    (h : lineRemark line = some remark) : ⟨number, remark⟩ ∈ scanLine number line := by
  rw [scanLine, h]
  exact List.mem_append_right _ (List.mem_singleton_self _)

/-- The records of a physical line are those that its own scan gives. -/
theorem mem_scanLine_of_mem_scan {source : String} {record : Record} {index : Nat}
    {line : List Char} (h : record ∈ scan source) (hindex : record.line = index + 1)
    (hline : (physicalLines source.toList)[index]? = some line) :
    record ∈ scanLine (index + 1) line := by
  obtain ⟨other, found, hfound, hrecord⟩ := mem_scan_iff.mp h
  have hnumber := line_of_mem_scanLine hrecord
  obtain rfl : other = index := by omega
  obtain rfl := Option.some.inj (hfound.symm.trans hline)
  exact hrecord

/-! ### Tails -/

theorem isBlankLine_eq_false_iff {line : List Char} :
    isBlankLine line = false ↔ ∃ c ∈ line, isBlank c = false := by
  simp [isBlankLine]

/-- A comment is a tail exactly when something but white space stands in front of the first loose
number sign of its line, or when that is not the only one. -/
theorem tail_iff_behind_code_or_second_hash {source : String} {record : Record} {text : String}
    (h : record ∈ scan source) (htext : record.remark.text? = some text) :
    ∃ index line, ∃ before after : List Part,
      record.line = index + 1 ∧ (physicalLines source.toList)[index]? = some line ∧
        Parted line (before ++ .loose '#' :: after) ∧ Part.loose '#' ∉ before ∧
          (record.remark = .tail text ↔
            (∃ c ∈ before.flatMap Part.text, isBlank c = false) ∨ Part.loose '#' ∈ after) := by
  obtain ⟨index, line, hline, hrecord⟩ := mem_scan_iff.mp h
  have hremark := lineRemark_of_mem_scanLine hrecord htext
  obtain ⟨parts, hparts⟩ := exists_parted line
  have hhash := hparts.hash_mem_of_comment hremark htext
  obtain ⟨before, after, rfl, hfirst⟩ := List.eq_append_cons_of_mem hhash
  refine ⟨index, line, before, after, line_of_mem_scanLine hrecord, hline, hparts, hfirst, ?_⟩
  rw [← isBlankLine_eq_false_iff]
  by_cases hsecond : Part.loose '#' ∈ after
  · -- The first sign stands in front of the last one.
    obtain ⟨between, last, rfl, hlast⟩ := exists_last_hash hsecond
    have hsplit : before ++ .loose '#' :: (between ++ .loose '#' :: last) =
        (before ++ .loose '#' :: between) ++ .loose '#' :: last := by simp
    rw [hsplit] at hparts
    have hcode : isBlankLine ((before ++ .loose '#' :: between).flatMap Part.text) = false :=
      isBlankLine_eq_false_iff.mpr ⟨'#', by simp [Part.text], rfl⟩
    exact iff_of_true ((hparts.comment_spec hlast hremark htext).2.mpr hcode) (.inr hsecond)
  · rw [(hparts.comment_spec hsecond hremark htext).2, or_iff_left hsecond]

theorem tail_iff_behind_code_or_second_hash_literal :
    let source := "s = '#'  # a"
    let record : Record := ⟨1, .tail "a"⟩
    (record ∈ scan source ∧ record.remark.text? = some "a") ∧
      ∃ index line, ∃ before after : List Part,
        record.line = index + 1 ∧ (physicalLines source.toList)[index]? = some line ∧
          Parted line (before ++ .loose '#' :: after) ∧ Part.loose '#' ∉ before ∧
            (record.remark = .tail "a" ↔
              (∃ c ∈ before.flatMap Part.text, isBlank c = false) ∨ Part.loose '#' ∈ after) := by
  intro source record
  have hmem : record ∈ scan source := by decide +kernel
  exact ⟨⟨hmem, rfl⟩, tail_iff_behind_code_or_second_hash hmem rfl⟩

/-- A comment on a line of its own is a tail when it has a second number sign. -/
theorem second_hash_makes_tail :
    ⟨1, .tail "b"⟩ ∈ scan "# a # b" ∧
      ∀ before after, Parted "# a # b".toList (before ++ .loose '#' :: after) →
        Part.loose '#' ∉ before → before = [] := by
  refine ⟨by decide, fun before after hcut hfirst => ?_⟩
  obtain ⟨parts, hparts⟩ := exists_parted " a # b".toList
  have hsame := hcut.unique (.loose_of_not_isQuote (by decide) hparts)
  cases before with
  | nil => rfl
  | cons part rest =>
      obtain ⟨rfl, -⟩ := List.cons.inj hsame
      exact absurd List.mem_cons_self hfirst

/-! ### Lines whose literals are closed -/

/-- A part that opens no literal without closing it and starts no comment. -/
def Part.IsSettled : Part → Prop
  | loose c => isQuote c = false ∧ c ≠ '#'
  | literal text => IsLiteral text

theorem Parted.settled_append {parts rest : List Part} {comment : List Char}
    (h : ∀ part ∈ parts, part.IsSettled) (hrest : Parted comment rest) :
    Parted (parts.flatMap Part.text ++ comment) (parts ++ rest) := by
  induction parts with
  | nil => exact hrest
  | cons part others ih =>
      obtain ⟨hpart, hothers⟩ := List.forall_mem_cons.mp h
      rw [List.flatMap_cons, List.append_assoc]
      cases part with
      | loose c => exact .loose_of_not_isQuote hpart.1 (ih hothers)
      | literal text => exact .literal hpart (ih hothers)

theorem hash_not_mem_of_settled {parts : List Part} (h : ∀ part ∈ parts, part.IsSettled) :
    Part.loose '#' ∉ parts := fun hmem => (h _ hmem).2 rfl

theorem exists_parted_hash (rest : List Char) :
    ∃ before after, Parted ('#' :: rest) (before ++ .loose '#' :: after) ∧
      Part.loose '#' ∉ after := by
  obtain ⟨parts, hparts⟩ := exists_parted rest
  obtain ⟨before, after, hsplit, hlast⟩ :=
    exists_last_hash (List.mem_cons_self : Part.loose '#' ∈ .loose '#' :: parts)
  exact ⟨before, after, hsplit ▸ .loose_of_not_isQuote (by decide) hparts, hlast⟩

theorem comment_of_mem_scan {source : String} {record : Record} {index : Nat} {line : List Char}
    {text : String} (h : record ∈ scan source) (hindex : record.line = index + 1)
    (hline : (physicalLines source.toList)[index]? = some line)
    (htext : record.remark.text? = some text) : lineRemark line = some record.remark :=
  lineRemark_of_mem_scanLine (mem_scanLine_of_mem_scan h hindex hline) htext

/-- A line whose literals are closed where its comment starts has a comment exactly when one starts
there. Its text is the end of that comment, behind a number sign and at most one space, and it is a
tail when anything but white space stands in front. -/
theorem comment_iff_behind_settled {source : String} {index : Nat} {parts : List Part}
    {comment : List Char}
    (hline : (physicalLines source.toList)[index]? = some (parts.flatMap Part.text ++ comment))
    (hparts : ∀ part ∈ parts, part.IsSettled)
    (hcomment : comment = [] ∨ comment.head? = some '#') :
    ((∃ record ∈ scan source, record.line = index + 1 ∧ record.remark.text?.isSome = true) ↔
        comment ≠ []) ∧
      ∀ record ∈ scan source, record.line = index + 1 → ∀ text, record.remark.text? = some text →
        (∃ before after, comment = before ++ '#' :: after ∧ text.toList = dropSpace after) ∧
          ((∃ c ∈ parts.flatMap Part.text, isBlank c = false) → record.remark = .tail text) := by
  rcases hcomment with rfl | hhash
  · have hcut := Parted.settled_append hparts .nil
    rw [List.append_nil parts] at hcut
    have hnone : ∀ record ∈ scan source, record.line = index + 1 →
        ∀ text, record.remark.text? ≠ some text := fun record hrecord hindex text htext =>
      hash_not_mem_of_settled hparts
        (hcut.hash_mem_of_comment (comment_of_mem_scan hrecord hindex hline htext) htext)
    refine ⟨⟨?_, fun hne => absurd rfl hne⟩, fun record hrecord hindex text htext =>
      absurd htext (hnone record hrecord hindex text)⟩
    rintro ⟨record, hrecord, hindex, hsome⟩
    obtain ⟨text, htext⟩ := Option.isSome_iff_exists.mp hsome
    exact absurd htext (hnone record hrecord hindex text)
  · obtain ⟨rest, rfl⟩ := List.head?_eq_some_iff.mp hhash
    obtain ⟨before, after, hrest, hlast⟩ := exists_parted_hash rest
    have hcut := Parted.settled_append hparts hrest
    rw [← List.append_assoc] at hcut
    refine ⟨⟨fun _ => List.cons_ne_nil _ _, fun _ => ?_⟩,
      fun record hrecord hindex text htext => ?_⟩
    · have hremark := hcut.lineRemark_eq hlast
      refine ⟨_, mem_scan_iff.mpr ⟨index, _, hline, mem_scanLine_of_lineRemark hremark⟩, rfl, ?_⟩
      dsimp only
      split <;> rfl
    · have hremark := comment_of_mem_scan hrecord hindex hline htext
      obtain ⟨htext, htail⟩ := hcut.comment_spec hlast hremark htext
      refine ⟨⟨before.flatMap Part.text, after.flatMap Part.text, ?_, ?_⟩, fun hcode => ?_⟩
      · rw [← hrest.flatMap_text, List.flatMap_append, List.flatMap_cons]
        rfl
      · rw [htext, String.toList_ofList]
      · obtain ⟨c, hc, hblank⟩ := hcode
        refine htail.mpr (isBlankLine_eq_false_iff.mpr ⟨c, ?_, hblank⟩)
        rw [List.flatMap_append]
        exact List.mem_append_left _ hc

theorem comment_iff_behind_settled_escape :
    let source := "s = '\\'#' # it's"
    let parts := ("s = ".toList.map Part.loose) ++ [.literal "'\\'#'".toList, .loose ' ']
    let comment := "# it's".toList
    ((physicalLines source.toList)[0]? = some (parts.flatMap Part.text ++ comment) ∧
      (∀ part ∈ parts, part.IsSettled) ∧ (comment = [] ∨ comment.head? = some '#')) ∧
    ((∃ record ∈ scan source, record.line = 0 + 1 ∧ record.remark.text?.isSome = true) ↔
        comment ≠ []) ∧
      ∀ record ∈ scan source, record.line = 0 + 1 → ∀ text, record.remark.text? = some text →
        (∃ before after, comment = before ++ '#' :: after ∧ text.toList = dropSpace after) ∧
          ((∃ c ∈ parts.flatMap Part.text, isBlank c = false) → record.remark = .tail text) := by
  intro source parts comment
  have hline : (physicalLines source.toList)[0]? = some (parts.flatMap Part.text ++ comment) := by
    decide +kernel
  have hbody : LiteralBody '\'' "\\'#".toList :=
    .escaped (by decide) (.plain (by decide) (by decide) .nil)
  have hliteral : IsLiteral "'\\'#'".toList := .enclosed rfl hbody
  have hloose : "s = ".toList.all (fun c => !isQuote c && c != '#') = true := by decide
  have hparts : ∀ part ∈ parts, part.IsSettled := by
    rw [List.forall_mem_append, List.forall_mem_map]
    exact ⟨fun c hc => by simpa [Part.IsSettled] using List.all_eq_true.mp hloose c hc,
      by simpa [Part.IsSettled, isQuote] using hliteral⟩
  have hcomment : comment = [] ∨ comment.head? = some '#' := .inr rfl
  exact ⟨⟨hline, hparts, hcomment⟩, comment_iff_behind_settled hline hparts hcomment⟩

end Snippet.Comment
