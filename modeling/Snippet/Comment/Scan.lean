import Snippet.Comment.Record
import Snippet.Text.Blank
import Snippet.Text.Lines

namespace Snippet.Comment

open Text

def byteLength : List Char → Nat
  | [] => 0
  | c :: rest => c.utf8Size + byteLength rest

/-- What is left of a text from a byte offset on, unless the offset lies inside a character or past
the end. -/
def suffixAt : Nat → List Char → Option (List Char)
  | 0, text => some text
  | _ + 1, [] => none
  | offset + 1, c :: rest =>
    if c.utf8Size ≤ offset + 1 then suffixAt (offset + 1 - c.utf8Size) rest else none

/-- The number of characters through the quote that closes a string literal, given the characters
after its opening quote. A backslash takes the next character with it. -/
def closingLength (quote : Char) : List Char → Option Nat
  | [] => none
  | c :: rest =>
    if c = quote then some 1
    else if c = '\\' then
      match rest with
      | [] => none
      | escaped :: rest =>
        if escaped = '\n' then none else (closingLength quote rest).map (· + 2)
    else (closingLength quote rest).map (· + 1)

/-- Replaces a number of leading characters, and every string literal that closes after them, with
as many underscores as they have bytes. Byte offsets in the result are byte offsets in the line. -/
def maskFrom : Nat → List Char → List Char
  | _, [] => []
  | inside + 1, c :: rest => List.replicate c.utf8Size '_' ++ maskFrom inside rest
  | 0, c :: rest =>
    if c = '"' ∨ c = '\'' then
      match closingLength c rest with
      | some length => '_' :: maskFrom length rest
      | none => c :: maskFrom 0 rest
    else c :: maskFrom 0 rest

def maskLiterals (line : List Char) : List Char := maskFrom 0 line

/-- The parts of a text before and after its last number sign. -/
def splitAtLastHash : List Char → Option (List Char × List Char)
  | [] => none
  | c :: rest =>
    match splitAtLastHash rest with
    | some (before, after) => some (c :: before, after)
    | none => if c = '#' then some ([], rest) else none

/-- Where the comment of a masked line starts: whether code comes before it, and the byte offset of
its text after the number sign and at most one space. -/
def commentStart (masked : List Char) : Option (Bool × Nat) :=
  (splitAtLastHash (dropBlanks masked)).map fun (before, after) =>
    let text :=
      match after with
      | ' ' :: text => text
      | text => text
    (!before.isEmpty, byteLength masked - byteLength text)

/-- The comment of a line, or the blank that a line of white space is. -/
def lineRemark (line : List Char) : Option Remark :=
  match commentStart (maskLiterals line) with
  | some (afterCode, offset) =>
    let text := String.ofList ((suffixAt offset line).getD [])
    some (if afterCode then .tail text else .own text)
  | none => if isBlankLine line then some .blank else none

/-- A line whose code starts with `else:`, or with `elif` and a space and has a colon later. -/
def startsElse (line : List Char) : Bool :=
  let code := dropBlanks line
  "else:".toList.isPrefixOf code || ("elif ".toList.isPrefixOf code && (code.drop 5).contains ':')

def scanLine (number : Nat) (line : List Char) : List Record :=
  (if startsElse line then [⟨number, .elseLine⟩] else []) ++
    ((lineRemark line).map fun remark => ⟨number, remark⟩).toList

def scanFrom (number : Nat) : List (List Char) → List Record
  | [] => []
  | line :: rest => scanLine number line ++ scanFrom (number + 1) rest

/-- The comments, blank lines and else lines of a snippet, in order. -/
def scan (source : String) : List Record := scanFrom 1 (physicalLines source.toList)

/-! The text of a comment is a piece of its line, and so has no newline. -/

theorem mem_of_mem_suffixAt {offset : Nat} {text suffix : List Char} {c : Char}
    (h : suffixAt offset text = some suffix) (hc : c ∈ suffix) : c ∈ text := by
  fun_induction suffixAt offset text with
  | case1 text => exact Option.some.inj h ▸ hc
  | case2 => simp at h
  | case3 offset first rest hsize ih => exact List.mem_cons_of_mem _ (ih h)
  | case4 => simp at h

theorem mem_of_mem_lineRemark {line : List Char} {remark : Remark} {text : String} {c : Char}
    (hremark : lineRemark line = some remark) (htext : remark.text? = some text)
    (hc : c ∈ text.toList) : c ∈ line := by
  rw [lineRemark] at hremark
  split at hremark
  · next afterCode offset hstart =>
      obtain rfl : text = String.ofList ((suffixAt offset line).getD []) := by
        simp only [Option.some.injEq] at hremark
        cases afterCode <;> (subst hremark; simpa [Remark.text?] using htext.symm)
      rw [String.toList_ofList] at hc
      cases hsuffix : suffixAt offset line with
      | none => simp [hsuffix] at hc
      | some suffix => exact mem_of_mem_suffixAt hsuffix (by simpa [hsuffix] using hc)
  · split at hremark
    · obtain rfl : Remark.blank = remark := by simpa using hremark
      simp [Remark.text?] at htext
    · simp at hremark

theorem exists_line_of_mem_scanFrom {number : Nat} {lines : List (List Char)} {record : Record}
    {text : String} (h : record ∈ scanFrom number lines) (htext : record.remark.text? = some text) :
    ∃ line ∈ lines, ∀ c ∈ text.toList, c ∈ line := by
  induction lines generalizing number with
  | nil => simp [scanFrom] at h
  | cons line rest ih =>
      rw [scanFrom, List.mem_append, scanLine, List.mem_append] at h
      rcases h with (helse | hremark) | hrest
      · split at helse
        · obtain rfl : record = ⟨number, .elseLine⟩ := by simpa using helse
          simp [Remark.text?] at htext
        · simp at helse
      · obtain ⟨remark, hline, rfl⟩ : ∃ remark, lineRemark line = some remark ∧
            (⟨number, remark⟩ : Record) = record := by simpa using hremark
        exact ⟨line, List.mem_cons_self, fun c hc => mem_of_mem_lineRemark hline htext hc⟩
      · obtain ⟨found, hfound, hmem⟩ := ih hrest
        exact ⟨found, List.mem_cons_of_mem _ hfound, hmem⟩

theorem newline_not_mem_of_mem_scan {source : String} {record : Record} {text : String}
    (h : record ∈ scan source) (htext : record.remark.text? = some text) : '\n' ∉ text.toList := by
  obtain ⟨line, hline, hmem⟩ := exists_line_of_mem_scanFrom h htext
  exact fun hc => newline_not_mem_of_mem_physicalLines hline (hmem _ hc)

end Snippet.Comment
