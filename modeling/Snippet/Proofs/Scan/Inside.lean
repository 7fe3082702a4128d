import Snippet.Proofs.Order.Place
import Snippet.Proofs.Scan.Lines
import Snippet.Render.Rendering

/-!
# Lines inside strings

The scan for comments takes one physical line at a time and carries nothing over to the next. So a
line in the middle of a string that spans several lines leaves the records that it would leave on
its own, and the inside of the string is passed over only where none of its lines looks like a
comment, a blank line or a line of `else`.
-/

namespace Snippet

namespace Text

theorem length_splitLines (text : List Char) :
    (splitLines text).length = text.count '\n' + 1 := by
  fun_induction splitLines text with
  | case1 => rfl
  | case2 rest ih => rw [List.length_cons, ih, List.count_cons_self]
  | case3 c rest hc heq ih => exact absurd heq (splitLines_ne_nil rest)
  | case4 c rest hc first lines heq ih =>
      have hne : c ≠ '\n' := hc
      rw [heq] at ih
      rw [List.count_cons_of_ne hne, ← ih]
      rfl

theorem getElem?_splitLines_cons {c : Char} (hc : c ≠ '\n') (rest : List Char) (index : Nat) :
    (splitLines (c :: rest))[index + 1]? = (splitLines rest)[index + 1]? := by
  rw [splitLines]
  · cases hrest : splitLines rest with
    | nil => exact absurd hrest (splitLines_ne_nil rest)
    | cons first lines => rfl
  · exact hc

theorem head?_splitLines_cons {c : Char} (hc : c ≠ '\n') (rest : List Char) :
    (splitLines (c :: rest)).head? = (splitLines rest).head?.map (c :: ·) := by
  rw [splitLines]
  · cases hrest : splitLines rest with
    | nil => exact absurd hrest (splitLines_ne_nil rest)
    | cons first lines => rfl
  · exact hc

/-- A text in front joins the first line of a text and moves the others. -/
theorem getElem?_splitLines_append (before text : List Char) (index : Nat) :
    (splitLines (before ++ text))[before.count '\n' + (index + 1)]? =
      (splitLines text)[index + 1]? := by
  induction before with
  | nil => rw [List.nil_append, List.count_nil, Nat.zero_add]
  | cons c rest ih =>
      rw [List.cons_append]
      by_cases hc : c = '\n'
      · subst hc
        rw [List.count_cons_self, splitLines, ← ih, Nat.add_right_comm]
        rfl
      · rw [List.count_cons_of_ne hc, ← Nat.add_assoc, getElem?_splitLines_cons hc, ← ih]
        rfl

/-- A text behind joins the last line of a text and leaves the others. -/
theorem getElem?_splitLines_of_lt {text : List Char} (after : List Char) {index : Nat}
    (h : index < text.count '\n') :
    (splitLines (text ++ after))[index]? = (splitLines text)[index]? := by
  induction text generalizing index with
  | nil => exact absurd h (Nat.not_lt_zero index)
  | cons c rest ih =>
      rw [List.cons_append]
      by_cases hc : c = '\n'
      · subst hc
        rw [List.count_cons_self] at h
        cases index with
        | zero => rfl
        | succ index => exact ih (by omega)
      · rw [List.count_cons_of_ne hc] at h
        cases index with
        | zero =>
            rw [← List.head?_eq_getElem?, ← List.head?_eq_getElem?, head?_splitLines_cons hc,
              head?_splitLines_cons hc, List.head?_eq_getElem?, ih h, ← List.head?_eq_getElem?]
        | succ index =>
            rw [getElem?_splitLines_cons hc, getElem?_splitLines_cons hc, ih h]

theorem getElem?_closeLines {pieces : List (List Char)} {index : Nat}
    (h : index + 1 < pieces.length) :
    (closeLines pieces)[index]? = pieces[index]?.map dropCarriageReturn := by
  fun_induction closeLines pieces generalizing index with
  | case1 => exact absurd h (Nat.not_lt_zero _)
  | case2 => exact absurd h (by simp)
  | case3 last => exact absurd h (by simp)
  | case4 first rest _ ih =>
      cases index with
      | zero => rfl
      | succ index => exact ih (by simpa using h)

/-- The lines of a text strictly between its first and its last, as they are scanned, each with its
distance from the first. -/
def Inside (text : List Char) (index : Nat) (line : List Char) : Prop :=
  0 < index ∧ index < text.count '\n' ∧
    (splitLines text)[index]?.map dropCarriageReturn = some line

theorem exists_inside {text : List Char} {index : Nat} (hpos : 0 < index)
    (h : index < text.count '\n') : ∃ line, Inside text index line := by
  have hlength : index < (splitLines text).length := by
    rw [length_splitLines]
    omega
  exact ⟨_, hpos, h, by rw [List.getElem?_eq_getElem hlength, Option.map_some]⟩

end Text

open Text
open Source (Node)

namespace Comment

/-- Where a node stands in a source, the inner lines of its text are physical lines of the source. -/
theorem physicalLine_of_inside {source line : List Char} {node : Node} {index : Nat}
    (h : node.StandsIn source) (hinside : Inside node.text.toList index line) :
    (physicalLines source)[node.line.toNat + index - 1]? = some line := by
  obtain ⟨before, after, rfl, hrow⟩ := h.exists_append
  obtain ⟨hpos, hlt, hline⟩ := hinside
  obtain ⟨index, rfl⟩ := Nat.exists_eq_add_one_of_ne_zero (Nat.ne_of_gt hpos)
  have hplace : node.line.toNat + (index + 1) - 1 = before.count '\n' + (index + 1) := by
    rw [node.toNat_line, hrow]
    omega
  have hlength : before.count '\n' + (index + 1) + 1 <
      (splitLines (before ++ (node.text.toList ++ after))).length := by
    rw [length_splitLines, List.count_append, List.count_append]
    omega
  rw [hplace, physicalLines, getElem?_closeLines hlength, getElem?_splitLines_append,
    getElem?_splitLines_of_lt after hlt, hline]

/-- A line that leaves no record: it has a character besides white space, does not start with an
`else`, and has no number sign outside its literals. -/
def Quiet (line : List Char) : Prop :=
  isBlankLine line = false ∧ startsElse line = false ∧
    ∃ parts, Parted line parts ∧ Part.loose '#' ∉ parts

theorem scanLine_eq_nil_iff (number : Nat) {line : List Char} :
    scanLine number line = [] ↔ Quiet line := by
  obtain ⟨parts, hparts⟩ := exists_parted line
  have hloose : (∃ parts, Parted line parts ∧ Part.loose '#' ∉ parts) ↔ Part.loose '#' ∉ parts := by
    constructor
    · rintro ⟨other, hother, h⟩
      exact hparts.unique hother ▸ h
    · exact fun h => ⟨parts, hparts, h⟩
  have helse : (if startsElse line then [(⟨number, .elseLine⟩ : Record)] else []) = [] ↔
      startsElse line = false := by
    cases startsElse line <;> simp
  have hremark : lineRemark line = none ↔
      isBlankLine line = false ∧ Part.loose '#' ∉ parts := by
    by_cases hhash : Part.loose '#' ∈ parts
    · obtain ⟨before, after, rfl, hlast⟩ := exists_last_hash hhash
      rw [hparts.lineRemark_eq hlast]
      simp
    · rw [hparts.lineRemark_eq_blank hhash]
      cases isBlankLine line <;> simp [hhash]
  rw [scanLine, List.append_eq_nil_iff, helse, Option.toList_eq_nil_iff, Option.map_eq_none_iff,
    hremark, Quiet, hloose]
  exact and_left_comm

theorem filter_scan_inside {source : String} {line : List Char} {node : Node} {index : Nat}
    (h : node.StandsIn source.toList) (hinside : Inside node.text.toList index line) :
    (scan source).filter (·.line = node.line.toNat + index) =
      scanLine (node.line.toNat + index) line := by
  have hline := physicalLine_of_inside h hinside
  have hpos : node.line.toNat + index - 1 + 1 = node.line.toNat + index := Nat.sub_add_cancel (by
    have hinner := hinside.1
    omega)
  rw [← hpos]
  exact filter_scan hline

/-- The inside of a node that stands in a source leaves no record exactly where each of its lines is
quiet. -/
theorem no_record_inside_iff {source : String} {node : Node} (h : node.StandsIn source.toList) :
    (∀ record ∈ scan source, ¬(node.line.toNat < record.line ∧
        record.line < node.line.toNat + node.text.toList.count '\n')) ↔
      ∀ index line, Inside node.text.toList index line → Quiet line := by
  constructor
  · intro hnone index line hinside
    rw [← scanLine_eq_nil_iff (node.line.toNat + index), ← filter_scan_inside h hinside]
    refine List.filter_eq_nil_iff.mpr fun record hrecord => ?_
    rw [decide_eq_true_iff]
    intro hline
    obtain ⟨hpos, hlt, -⟩ := hinside
    exact hnone record hrecord ⟨by omega, by omega⟩
  · rintro hquiet record hrecord ⟨hafter, hbefore⟩
    obtain ⟨line, hinside⟩ : ∃ line, Inside node.text.toList (record.line - node.line.toNat) line :=
      exists_inside (by omega) (by omega)
    have hnil := filter_scan_inside h hinside
    rw [(scanLine_eq_nil_iff _).mpr (hquiet _ _ hinside)] at hnil
    have hline : record.line = node.line.toNat + (record.line - node.line.toNat) := by omega
    exact absurd (decide_eq_true hline) (List.filter_eq_nil_iff.mp hnil record hrecord)

end Comment

open Comment

/-- **The inside of a string is scanned like any other text.** Each line in the middle of a string of
a tree leaves the records it would leave on its own. So the inside of the string is not replayed
exactly where none of its lines is blank, starts with an `else` or has a number sign outside what
looks like a literal on that line. -/
theorem inside_of_string_scanned {source : String} {tree : Source.Tree}
    (h : tree.Spans source.toList) :
    ∀ node ∈ tree.root.preorder, node.kind = "string" →
      (∀ index line, Inside node.text.toList index line →
        (physicalLines source.toList)[node.line.toNat + index - 1]? = some line ∧
          (scan source).filter (·.line = node.line.toNat + index) =
            scanLine (node.line.toNat + index) line) ∧
      ((∀ record ∈ scan source, ¬(node.line.toNat < record.line ∧
          record.line < node.line.toNat + node.text.toList.count '\n')) ↔
        ∀ index line, Inside node.text.toList index line → Quiet line) := by
  intro node hnode _
  have hstands : node.StandsIn source.toList := h.stands node hnode
  constructor
  · intro index line hinside
    exact ⟨physicalLine_of_inside hstands hinside, filter_scan_inside hstands hinside⟩
  · exact no_record_inside_iff hstands

/-- A source that is one string in three double quotes, and its tree. -/
def quotedTree (content : String) : Source.Tree :=
  ⟨.construct "module" 0 (quoted ++ "\n") [string], false⟩
where
  quoted : String := "\"\"\"" ++ content ++ "\"\"\""
  string : Node :=
    .construct "string" 0 quoted
      [.construct "string_start" 0 "\"\"\"" [], .construct "string_content" 0 content [],
        .construct "string_end" 2 "\"\"\"" []]

theorem quotedTree_read {content value : String}
    (h : (quotedTree.string content).readString = .ok value) :
    (quotedTree content).read = .ok ⟨[.mk 1 (.expr (.constant (.str value)))]⟩ := by
  let node := quotedTree.string content
  have hexpr : node.readExpr = .ok (.constant (.str value)) := by
    rw [Node.readExpr]
    change node.readString.bind (fun value => .ok (Expr.constant (.str value))) = _
    rw [h]
    rfl
  have hstmt : node.readStmt = .ok (.mk 1 (.expr (.constant (.str value)))) := by
    rw [Node.readStmt]
    change (node.readExpr.bind fun value => .ok (StmtKind.expr value)).bind
      (fun kind => .ok (Stmt.mk 1 kind)) = _
    rw [hexpr]
    rfl
  change ([node].mapM Node.readStmt).bind (fun body => .ok (Program.mk body)) = _
  rw [List.mapM_cons, hstmt]
  rfl
/-- A number sign in quotes on a line of its own inside a string leaves no record. -/
theorem inside_of_string_scanned_quoted :
    let source := "\"\"\"a\nb = '#'\nc\"\"\"\n"
    let tree := quotedTree "a\nb = '#'\nc"
    tree.Spans source.toList ∧
      tree.read = .ok ⟨[.mk 1 (.expr (.constant (.str "a\nb = '#'\nc")))]⟩ ∧
      ∀ record ∈ scan source, ¬(1 < record.line ∧ record.line < 1 + 2) := by
  intro source tree
  have hspans : tree.Spans source.toList :=
    ⟨⟨by decide +kernel, by decide +kernel⟩, by decide +kernel, by decide +kernel⟩
  have hnode : quotedTree.string "a\nb = '#'\nc" ∈ tree.root.preorder :=
    List.mem_cons_of_mem _ (List.mem_append_left _ (Node.mem_preorder_self _))
  refine ⟨hspans, quotedTree_read rfl, (inside_of_string_scanned hspans _ hnode rfl).2.mpr ?_⟩
  rintro index line ⟨hpos, hlt, hline⟩
  have hcount : (quotedTree.string "a\nb = '#'\nc").text.toList.count '\n' = 2 := by decide +kernel
  obtain rfl : index = 1 := by
    rw [hcount] at hlt
    omega
  have hmiddle : (splitLines (quotedTree.string "a\nb = '#'\nc").text.toList)[1]?.map
      dropCarriageReturn = some "b = '#'".toList := by
    decide +kernel
  rw [Option.some.inj (hline.symm.trans hmiddle)]
  exact (scanLine_eq_nil_iff 2).mp (by decide +kernel)

/-- A line of a docstring that begins with a number sign is written twice: with the docstring, and
as a comment behind it. -/
theorem docstring_line_recorded :
    let source := "\"\"\"a\n# h\nb\"\"\"\n"
    let tree := quotedTree "a\n# h\nb"
    let node := quotedTree.string "a\n# h\nb"
    ∃ program rendering, tree.Spans source.toList ∧ tree.read = .ok program ∧
      node ∈ tree.root.preorder ∧ node.kind = "string" ∧
      node.line.toNat < 2 ∧ 2 < node.line.toNat + node.text.toList.count '\n' ∧
      (⟨2, .own "h"⟩ : Record) ∈ scan source ∧
      program.render .cpp .standard (scan source) = .ok rendering ∧
      rendering.text = "/*\na\n# h\nb\n*/\n// h\n" := by
  intro source tree node
  have hspans : tree.Spans source.toList :=
    ⟨⟨by decide +kernel, by decide +kernel⟩, by decide +kernel, by decide +kernel⟩
  have hread : tree.read = .ok ⟨[.mk 1 (.expr (.constant (.str "a\n# h\nb")))]⟩ :=
    quotedTree_read rfl
  have hnode : node ∈ tree.root.preorder :=
    List.mem_cons_of_mem _ (List.mem_append_left _ (Node.mem_preorder_self _))
  exact ⟨_, _, hspans, hread, hnode, rfl, by decide, by decide +kernel, by decide +kernel, rfl,
    by decide +kernel⟩

end Snippet
