import Snippet.Proofs.Outline.Characters

/-!
# Comments and code as C-family languages tell them apart

A reader of C or of a language like it is in code, in a comment or in a string literal. Names
without the characters that move it elsewhere, constants and every operator but the one that opens
a comment leave it in code.
-/

namespace Snippet

open Text

/-! ### Reading -/

inductive LexMode where
  | code
  /-- After a slash that may open a comment. -/
  | slash
  | line
  | block
  /-- After an asterisk that may close a comment. -/
  | star
  | string
  | escape
deriving DecidableEq

namespace LexMode

/-- Reads a character. What is settled with it are characters with whether they lie in a comment; a
slash in code waits for the next character. -/
def read : LexMode → Char → LexMode × List (Char × Bool)
  | code, '/' => (slash, [])
  | code, '"' => (string, [('"', false)])
  | code, c => (code, [(c, false)])
  | slash, '/' => (line, [('/', true), ('/', true)])
  | slash, '*' => (block, [('/', true), ('*', true)])
  | slash, '"' => (string, [('/', false), ('"', false)])
  | slash, c => (code, [('/', false), (c, false)])
  | line, '\n' => (code, [('\n', false)])
  | line, c => (line, [(c, true)])
  | block, '*' => (star, [('*', true)])
  | block, c => (block, [(c, true)])
  | star, '/' => (code, [('/', true)])
  | star, '*' => (star, [('*', true)])
  | star, c => (block, [(c, true)])
  | string, '"' => (code, [('"', false)])
  | string, '\\' => (escape, [('\\', false)])
  | string, c => (string, [(c, false)])
  | escape, c => (string, [(c, false)])

def readAll : LexMode → List Char → LexMode × List (Char × Bool)
  | mode, [] => (mode, [])
  | mode, c :: rest =>
    let (next, settled) := mode.read c
    let (last, later) := next.readAll rest
    (last, settled ++ later)

/-- What the end of a text settles. -/
def pending : LexMode → List (Char × Bool)
  | slash => [('/', false)]
  | _ => []

end LexMode

/-- The characters of a text, each with whether it lies in a comment. -/
def lexed (text : List Char) : List (Char × Bool) :=
  let (last, settled) := LexMode.code.readAll text
  settled ++ last.pending

/-- Joins the lines that end in a backslash to the lines after them. -/
def splice : List Char → List Char
  | [] => []
  | '\\' :: '\n' :: rest => splice rest
  | c :: rest => c :: splice rest

/-- A text as the language reads it; only C++ splices lines. -/
def Dialect.lexed (dialect : Dialect) (text : String) : List (Char × Bool) :=
  match dialect with
  | cpp => Snippet.lexed (splice text.toList)
  | typeScript _ => Snippet.lexed text.toList

/-! ### Texts one after another -/

theorem LexMode.readAll_append (mode : LexMode) (first second : List Char) :
    mode.readAll (first ++ second) =
      (((mode.readAll first).1.readAll second).1,
        (mode.readAll first).2 ++ ((mode.readAll first).1.readAll second).2) := by
  induction first generalizing mode with
  | nil => rfl
  | cons c rest ih => simp [readAll, ih]

/-- A text that leaves a mode as it is, all of it in a comment or all of it not. -/
def LexMode.Keeps (mode : LexMode) (inComment : Bool) (text : List Char) : Prop :=
  mode.readAll text = (mode, text.map (·, inComment))

section Keeps

variable {mode : LexMode} {inComment : Bool} {first second text : List Char}

theorem LexMode.Keeps.append (h₁ : mode.Keeps inComment first) (h₂ : mode.Keeps inComment second) :
    mode.Keeps inComment (first ++ second) := by
  rw [Keeps] at *
  rw [readAll_append, h₁, h₂, List.map_append]

theorem LexMode.Keeps.cancel (h₁ : mode.Keeps inComment first)
    (h : mode.Keeps inComment (first ++ second)) : mode.Keeps inComment second := by
  rw [Keeps] at *
  rw [readAll_append, h₁, List.map_append] at h
  obtain ⟨hmode, hsettled⟩ := Prod.mk.inj h
  exact Prod.ext hmode (List.append_cancel_left hsettled)

theorem LexMode.keeps_of_forall (h : ∀ c ∈ text, mode.read c = (mode, [(c, inComment)])) :
    mode.Keeps inComment text := by
  induction text with
  | nil => rfl
  | cons c rest ih =>
      obtain ⟨hc, hrest⟩ := List.forall_mem_cons.mp h
      have hlater := ih hrest
      rw [Keeps] at *
      simp [readAll, hc, hlater]

end Keeps

/-- No line that ends in the text, or right after it, is spliced. -/
def Unspliced (text : List Char) : Prop := ∀ rest, splice (text ++ rest) = text ++ splice rest

section Unspliced

variable {first second text : List Char}

theorem Unspliced.append (h₁ : Unspliced first) (h₂ : Unspliced second) :
    Unspliced (first ++ second) := by
  intro rest
  rw [List.append_assoc, h₁, h₂, List.append_assoc]

theorem Unspliced.cancel (h₁ : Unspliced first) (h : Unspliced (first ++ second)) :
    Unspliced second := by
  intro rest
  have hboth := h rest
  rw [List.append_assoc, h₁, List.append_assoc] at hboth
  exact List.append_cancel_left hboth

theorem splice_cons_of_ne {c : Char} (h : c ≠ '\\') (rest : List Char) :
    splice (c :: rest) = c :: splice rest := by
  rw [splice.eq_def]
  split <;> simp_all

theorem splice_cons_cons_of_ne {next : Char} (h : next ≠ '\n') (c : Char) (rest : List Char) :
    splice (c :: next :: rest) = c :: splice (next :: rest) := by
  rw [splice.eq_def]
  split <;> simp_all

theorem unspliced_of_backslash_not_mem (h : '\\' ∉ text) : Unspliced text := by
  intro rest
  induction text with
  | nil => rfl
  | cons c text ih =>
      obtain ⟨hc, htext⟩ := List.ne_and_not_mem_of_not_mem_cons h
      rw [List.cons_append, splice_cons_of_ne hc.symm, ih htext, List.cons_append]

theorem unspliced_of_newline_not_mem (h : '\n' ∉ text) (hlast : text.getLast? ≠ some '\\') :
    Unspliced text := by
  intro rest
  induction text with
  | nil => rfl
  | cons c text ih =>
      cases text with
      | nil => exact splice_cons_of_ne (by simpa using hlast) rest
      | cons next text =>
          obtain ⟨-, htext⟩ := List.ne_and_not_mem_of_not_mem_cons h
          have hnext : next ≠ '\n' := (List.ne_and_not_mem_of_not_mem_cons htext).1.symm
          have hlater := ih htext (by simpa using hlast)
          rw [List.cons_append, List.cons_append, splice_cons_cons_of_ne hnext,
            ← List.cons_append, hlater]
          rfl

end Unspliced

/-! ### Texts of code -/

/-- Characters after which code goes on as code. -/
def isOrdinary (c : Char) : Bool := !(['/', '"', '\\'].contains c)

structure StaysCode (text : String) : Prop where
  keeps : LexMode.code.Keeps false text.toList
  unspliced : Unspliced text.toList

theorem LexMode.read_code_of_isOrdinary {c : Char} (h : isOrdinary c = true) :
    code.read c = (code, [(c, false)]) := by
  rw [read.eq_def]
  split <;> simp_all [isOrdinary]

theorem staysCode_of_isOrdinary {text : String} (h : text.toList.all isOrdinary = true) :
    StaysCode text where
  keeps := LexMode.keeps_of_forall fun c hc =>
    LexMode.read_code_of_isOrdinary (List.all_eq_true.mp h c hc)
  unspliced := unspliced_of_backslash_not_mem fun hmem => by
    simpa [isOrdinary] using List.all_eq_true.mp h _ hmem

theorem StaysCode.append {first second : String} (h₁ : StaysCode first) (h₂ : StaysCode second) :
    StaysCode (first ++ second) where
  keeps := by simpa using h₁.keeps.append h₂.keeps
  unspliced := by simpa using h₁.unspliced.append h₂.unspliced

theorem codeLaw_staysCode : CodeLaw StaysCode where
  plain h := staysCode_of_isOrdinary <| List.all_eq_true.mpr fun c hc => by
    have hplain := List.all_eq_true.mp h c hc
    simp_all [isPlain, isOrdinary]
  append := .append
  cancel h₁ h :=
    ⟨h₁.keeps.cancel (by simpa using h.keeps), h₁.unspliced.cancel (by simpa using h.unspliced)⟩
  group h := ((staysCode_of_isOrdinary (by decide)).append h).append
    (staysCode_of_isOrdinary (by decide))
  index h := ((staysCode_of_isOrdinary (by decide)).append h).append
    (staysCode_of_isOrdinary (by decide))
  braces h := ((staysCode_of_isOrdinary (by decide)).append h).append
    (staysCode_of_isOrdinary (by decide))

/-! ### String literals -/

theorem LexMode.keeps_string_hex : ∀ code < 0x20,
    LexMode.string.Keeps false ('\\' :: 'u' :: lowerHex 4 code) := by
  unfold LexMode.Keeps
  decide

theorem LexMode.keeps_string_jsonEscape (c : Char) : LexMode.string.Keeps false (jsonEscape c) := by
  rw [jsonEscape.eq_def]
  split
  case h_8 hquote hbackslash _ _ _ _ _ =>
    split
    · next hcontrol => exact keeps_string_hex _ hcontrol
    · refine keeps_of_forall fun d hd => ?_
      obtain rfl := List.mem_singleton.mp hd
      rw [read.eq_def]
      split <;> simp_all
  all_goals rfl

theorem newline_not_mem_jsonEscape (c : Char) : '\n' ∉ jsonEscape c := by
  have hhex : ∀ code < 0x20, '\n' ∉ lowerHex 4 code := by decide
  rw [jsonEscape.eq_def]
  split
  case h_8 =>
    split
    · next hcontrol => simpa using hhex _ hcontrol
    · next hcontrol =>
        intro hmem
        obtain rfl := List.mem_singleton.mp hmem
        exact hcontrol (by decide)
  all_goals decide

theorem staysCode_jsonString (text : String) : StaysCode (jsonString text) where
  keeps := by
    have hinner : LexMode.string.Keeps false (text.toList.flatMap jsonEscape) := by
      induction text.toList with
      | nil => rfl
      | cons c rest ih => exact (LexMode.keeps_string_jsonEscape c).append ih
    rw [LexMode.Keeps] at *
    rw [jsonString, String.toList_ofList, enclose, LexMode.readAll]
    simp [LexMode.read, LexMode.readAll_append, hinner, LexMode.readAll]
  unspliced := by
    rw [jsonString, String.toList_ofList, enclose]
    refine unspliced_of_newline_not_mem ?_ ?_
    · have hinner : '\n' ∉ text.toList.flatMap jsonEscape := fun hmem => by
        obtain ⟨c, -, hc⟩ := List.mem_flatMap.mp hmem
        exact newline_not_mem_jsonEscape c hc
      simp [hinner]
    · rw [← List.cons_append, List.getLast?_concat]
      decide

/-! ### Leaves -/

theorem staysCode_of_numeral {text : String} (h : ∀ c ∈ text.toList, c ∈ numeralCharacters) :
    StaysCode text := by
  have hordinary : numeralCharacters.all isOrdinary = true := by decide
  refine staysCode_of_isOrdinary (List.all_eq_true.mpr fun c hc => ?_)
  exact List.all_eq_true.mp hordinary c (h c hc)

theorem Dialect.staysCode_constant (dialect : Dialect) (value : Constant) (asType : Bool) :
    StaysCode (dialect.constant value asType) := by
  cases value with
  | nothing =>
      refine staysCode_of_isOrdinary ?_
      rcases dialect with _ | ⟨_ | _⟩ <;> cases asType <;> decide
  | bool value =>
      show StaysCode (if value then "true" else "false")
      exact staysCode_of_isOrdinary (by cases value <;> decide)
  | int value => exact staysCode_of_numeral (mem_int value.toInt)
  | float value => exact staysCode_of_numeral (mem_double value)
  | str text => exact staysCode_jsonString text

theorem isOrdinary_of_isUpper {c : Char} (h : c.isUpper = true) : isOrdinary c = true := by
  rw [isOrdinary, contains_eq_false_of_isUpper (by decide) h]
  rfl

theorem Dialect.spellsName_staysCode (dialect : Dialect) {name : String}
    (h : name.toList.all isOrdinary = true) : dialect.SpellsName StaysCode name := by
  refine ⟨staysCode_of_isOrdinary h, staysCode_of_isOrdinary (List.all_eq_true.mpr ?_)⟩
  exact forall_mem_styledName (by decide) (fun _ => isOrdinary_of_isUpper) dialect
    (List.all_eq_true.mp h)

/-- Of the operators only the floor division is spelled as a comment is opened. -/
theorem Dialect.staysCode_operator (dialect : Dialect) {op : BinaryOp} (h : op ≠ .floorDiv) :
    StaysCode (" " ++ dialect.operator (.binary op) ++ " ") ∧
      StaysCode (" " ++ dialect.operator (.binary op) ++ "= ") := by
  rw [dialect.operator_eq_curlySpelling (by simp) (by simp)]
  cases op <;> first
    | exact absurd rfl h
    | exact ⟨⟨rfl, unspliced_of_backslash_not_mem (by decide)⟩,
        ⟨rfl, unspliced_of_backslash_not_mem (by decide)⟩⟩

/-! ### Texts of comments -/

/-- A text that neither closes a block comment nor, in C++, splices the line after it. -/
structure Dialect.Comments (dialect : Dialect) (text : String) : Prop where
  unclosed : ¬ ['*', '/'] <:+: text.toList
  unspliced : dialect = .cpp → text.toList.getLast? ≠ some '\\'

theorem LexMode.keeps_line {text : List Char} (h : '\n' ∉ text) : line.Keeps true text := by
  refine keeps_of_forall fun c hc => ?_
  rw [read.eq_def]
  split <;> simp_all

/-- A text without a closer is comment to its end, also when an asterisk has been read before it. -/
theorem LexMode.readAll_block {text : List Char} :
    (¬ ['*', '/'] <:+: text → ∃ last, (last = block ∨ last = star) ∧
      block.readAll text = (last, text.map (·, true))) ∧
    (¬ ['*', '/'] <:+: '*' :: text → ∃ last, (last = block ∨ last = star) ∧
      star.readAll text = (last, text.map (·, true))) := by
  induction text with
  | nil => exact ⟨fun _ => ⟨block, .inl rfl, rfl⟩, fun _ => ⟨star, .inr rfl, rfl⟩⟩
  | cons c rest ih =>
      obtain ⟨hblock, hstar⟩ := ih
      have hgoes : ∀ {mode next : LexMode}, mode.read c = (next, [(c, true)]) →
          (∃ last, (last = block ∨ last = star) ∧ next.readAll rest = (last, rest.map (·, true))) →
          ∃ last, (last = block ∨ last = star) ∧
            mode.readAll (c :: rest) = (last, (c :: rest).map (·, true)) := by
        rintro mode next hread ⟨last, hlast, hrest⟩
        exact ⟨last, hlast, by simp [readAll, hread, hrest]⟩
      refine ⟨fun h => ?_, fun h => ?_⟩
      · by_cases hc : c = '*'
        · subst hc
          exact hgoes rfl (hstar h)
        · refine hgoes ?_ (hblock fun hinfix => h (List.infix_cons hinfix))
          rw [read.eq_def]
          split <;> simp_all
      · have hslash : c ≠ '/' := by
          rintro rfl
          exact h (List.prefix_append ['*', '/'] rest).isInfix
        have htail : ¬ ['*', '/'] <:+: c :: rest := fun hinfix => h (List.infix_cons hinfix)
        by_cases hc : c = '*'
        · subst hc
          exact hgoes rfl (hstar htail)
        · refine hgoes ?_ (hblock fun hinfix => htail (List.infix_cons hinfix))
          rw [read.eq_def]
          split <;> simp_all

/-- A text without a closer and a character after it that does not make one. -/
theorem LexMode.keeps_block {text : List Char} (h : ¬ ['*', '/'] <:+: text) {c : Char}
    (hslash : c ≠ '/') (hstar : c ≠ '*') : block.Keeps true (text ++ [c]) := by
  have hread : ∀ mode, mode = block ∨ mode = star → mode.read c = (block, [(c, true)]) := by
    rintro mode (rfl | rfl)
    · rw [read.eq_def]
      split <;> simp_all
    · rw [read.eq_def]
      split <;> simp_all
  obtain ⟨last, hlast, htext⟩ := readAll_block.1 h
  rw [Keeps, readAll_append, htext]
  simp [readAll, hread last hlast]

end Snippet
