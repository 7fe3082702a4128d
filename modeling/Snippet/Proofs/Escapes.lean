import Mathlib
import Snippet.Source.Expression

/-!
# Escapes in strings

The body of a string is made of characters and escapes, and each of these stands for code points: a
letter with a meaning of its own, up to three octal digits, a fixed count of hexadecimal digits, a line
end that disappears, and any other character, which keeps its backslash. The reader knows a few of
these escapes and keeps the others as they are written. So it gives the text that a body stands for
exactly where there are no others.
-/

namespace Snippet.Source

open Number (digitValue)

/-! ### What a body is made of -/

/-- An escape, by what is written behind its backslash. -/
inductive Escape where
  /-- A letter or mark with the code point that it stands for. -/
  | short (letter : Char) (code : Nat)
  | octal (digits : List Char)
  | hex (letter : Char) (digits : List Char)
  | lineEnd
  /-- A character without a meaning behind a backslash. -/
  | kept (c : Char)
deriving DecidableEq, Repr

inductive Symbol where
  | plain (c : Char)
  | escape (found : Escape)
deriving DecidableEq, Repr

def Escape.behind : Escape → List Char
  | short letter _ => [letter]
  | octal digits => digits
  | hex letter digits => letter :: digits
  | lineEnd => ['\n']
  | kept c => [c]

def Symbol.written : Symbol → List Char
  | plain c => [c]
  | escape found => '\\' :: found.behind

/-- The value of digits in a base. -/
def codeOf (base : Nat) (digits : List Char) : Nat :=
  digits.foldl (fun value c => base * value + digitValue c) 0

def Escape.codes : Escape → List Nat
  | short _ code => [code]
  | octal digits => [codeOf 8 digits]
  | hex _ digits => [codeOf 16 digits]
  | lineEnd => []
  | kept c => ['\\'.toNat, c.toNat]

/-- The code points that a symbol stands for, which need not be those of characters. -/
def Symbol.codes : Symbol → List Nat
  | plain c => [c.toNat]
  | escape found => found.codes

/-- The letters and marks with a meaning behind a backslash, each with the code point it stands for. -/
def shortEscapes : List (Char × Nat) :=
  [('\\', 0x5C), ('\'', 0x27), ('"', 0x22), ('a', 0x07), ('b', 0x08), ('f', 0x0C), ('n', 0x0A),
    ('r', 0x0D), ('t', 0x09), ('v', 0x0B)]

/-- The letters that take hexadecimal digits, each with how many. -/
def hexEscapes : List (Char × Nat) := [('x', 2), ('u', 4), ('U', 8)]

def isOctal (c : Char) : Bool := digitValue c < 8

def isHexadecimal (c : Char) : Bool := digitValue c < 16

/-- The escape that is written behind a backslash. There is none where hexadecimal digits are missing
or say no code point, for a character by its name, and at the end of a body. -/
def escape? : List Char → Option Escape
  | [] => none
  | c :: rest =>
    match shortEscapes.lookup c with
    | some code => some (.short c code)
    | none =>
      match hexEscapes.lookup c with
      | some width =>
        let digits := rest.take width
        if digits.length = width ∧ digits.all isHexadecimal ∧ codeOf 16 digits ≤ 0x10FFFF then
          some (.hex c digits)
        else none
      | none =>
        if isOctal c then some (.octal (c :: (rest.take 2).takeWhile isOctal))
        else if c = '\n' then some .lineEnd
        else if c = 'N' then none
        else some (.kept c)

/-- The symbols of a body whose escapes are all valid. -/
def symbols? : List Char → Option (List Symbol)
  | [] => some []
  | c :: rest =>
    if c = '\\' then
      match escape? rest with
      | some found => (symbols? (rest.drop found.behind.length)).map (.escape found :: ·)
      | none => none
    else (symbols? rest).map (.plain c :: ·)
termination_by text => text.length

/-! ### The symbols there are -/

/-- The escapes, but for how many digits one takes where more follow. -/
inductive Escape.IsValid : Escape → Prop where
  | short {letter : Char} {code : Nat} (h : (letter, code) ∈ shortEscapes) :
      IsValid (.short letter code)
  | octal {first : Char} {more : List Char} (hfirst : isOctal first = true)
      (hmore : ∀ c ∈ more, isOctal c = true) : IsValid (.octal (first :: more))
  | hex {letter : Char} {digits : List Char} (hletter : (letter, digits.length) ∈ hexEscapes)
      (hdigits : ∀ c ∈ digits, isHexadecimal c = true) : IsValid (.hex letter digits)
  | lineEnd : IsValid .lineEnd
  | kept {c : Char} (hshort : shortEscapes.lookup c = none) (hoctal : isOctal c = false)
      (hline : c ≠ '\n') : IsValid (.kept c)

def Symbol.IsValid : Symbol → Prop
  | plain c => c ≠ '\\'
  | escape found => found.IsValid

theorem mem_of_lookup_eq_some {table : List (Char × Nat)} {c : Char} {value : Nat}
    (h : table.lookup c = some value) : (c, value) ∈ table := by
  obtain ⟨before, after, rfl, -⟩ := List.lookup_eq_some_iff.mp h
  exact List.mem_append_right _ List.mem_cons_self

/-- An escape that is found is valid and stands at the front. -/
theorem escape?_spec {text : List Char} {found : Escape} (h : escape? text = some found) :
    found.IsValid ∧ found.behind ++ text.drop found.behind.length = text := by
  cases text with
  | nil => cases h
  | cons c rest =>
      rw [escape?] at h
      cases hshort : shortEscapes.lookup c with
      | some code =>
          rw [hshort] at h
          obtain rfl := Option.some.inj h
          exact ⟨.short (mem_of_lookup_eq_some hshort), rfl⟩
      | none =>
          rw [hshort] at h
          cases hwidth : hexEscapes.lookup c with
          | some width =>
              simp only [hwidth] at h
              split at h
              · next hdigits =>
                  obtain rfl := Option.some.inj h
                  obtain ⟨hlength, hall, -⟩ := hdigits
                  have hletter : (c, (rest.take width).length) ∈ hexEscapes := by
                    rw [hlength]
                    exact mem_of_lookup_eq_some hwidth
                  refine ⟨.hex hletter (List.all_eq_true.mp hall), ?_⟩
                  rw [Escape.behind, List.length_cons, List.drop_succ_cons, List.cons_append,
                    hlength, List.take_append_drop]
              · cases h
          | none =>
              simp only [hwidth] at h
              by_cases hoctal : isOctal c = true
              · rw [if_pos hoctal] at h
                obtain rfl := Option.some.inj h
                refine ⟨.octal hoctal fun d hd => List.mem_takeWhile_imp hd, ?_⟩
                have hfront : (rest.take 2).takeWhile isOctal <+: rest :=
                  (List.takeWhile_prefix _).trans (List.take_prefix _ _)
                exact congrArg (c :: ·) (List.prefix_append_drop hfront).symm
              · rw [if_neg hoctal] at h
                split at h
                · next hline =>
                    obtain rfl := Option.some.inj h
                    exact ⟨.lineEnd, by rw [hline]; rfl⟩
                · next hline =>
                    split at h
                    · cases h
                    · obtain rfl := Option.some.inj h
                      exact ⟨.kept hshort (Bool.eq_false_iff.mpr hoctal) hline, rfl⟩

/-- A body is what its symbols are written as, one after the other. -/
theorem symbols?_spec {body : List Char} {symbols : List Symbol}
    (h : symbols? body = some symbols) :
    (∀ symbol ∈ symbols, symbol.IsValid) ∧ symbols.flatMap Symbol.written = body := by
  fun_induction symbols? body generalizing symbols with
  | case1 =>
      obtain rfl := Option.some.inj h
      exact ⟨fun symbol hsymbol => (List.not_mem_nil hsymbol).elim, rfl⟩
  | case2 rest found hfound ih =>
      obtain ⟨more, hmore, rfl⟩ := Option.map_eq_some_iff.mp h
      obtain ⟨hvalid, hfront⟩ := escape?_spec hfound
      obtain ⟨hrest, hwritten⟩ := ih hmore
      refine ⟨List.forall_mem_cons.mpr ⟨hvalid, hrest⟩, ?_⟩
      rw [List.flatMap_cons, hwritten, Symbol.written, List.cons_append, hfront]
  | case3 rest hnone => cases h
  | case4 c rest hc ih =>
      obtain ⟨more, hmore, rfl⟩ := Option.map_eq_some_iff.mp h
      obtain ⟨hrest, hwritten⟩ := ih hmore
      refine ⟨List.forall_mem_cons.mpr ⟨hc, hrest⟩, ?_⟩
      rw [List.flatMap_cons, hwritten, Symbol.written, List.singleton_append]

/-! ### What the reader gives -/

theorem unescape_cons {c : Char} (hc : c ≠ '\\') (rest : List Char) :
    unescape (c :: rest) = c :: unescape rest := by
  cases rest with
  | nil => rfl
  | cons d rest => rw [unescape, if_neg hc]

theorem unescape_backslash (c : Char) (rest : List Char) :
    unescape ('\\' :: c :: rest) = (escaped? c).getD ['\\', c] ++ unescape rest := by
  rw [unescape, if_pos rfl]

theorem unescape_append {front : List Char} (h : ∀ c ∈ front, c ≠ '\\') (rest : List Char) :
    unescape (front ++ rest) = front ++ unescape rest := by
  induction front with
  | nil => rfl
  | cons c more ih =>
      obtain ⟨hc, hmore⟩ := List.forall_mem_cons.mp h
      rw [List.cons_append, unescape_cons hc, ih hmore, List.cons_append]

/-- The characters that the reader knows behind a backslash. -/
def knownMarks : List Char := ['n', 't', 'r', '0', '\\', '\'', '"', '\n']

theorem escaped?_eq_none {c : Char} (h : c ∉ knownMarks) : escaped? c = none := by
  rw [escaped?]
  all_goals
    rintro rfl
    exact h (by decide)

namespace Escape

/-- Whether the reader gives the text that an escape stands for. -/
def isResolved : Escape → Bool
  | short letter _ => knownMarks.contains letter
  | octal digits => digits == ['0']
  | hex .. => false
  | lineEnd | kept _ => true

/-- What the reader gives for an escape. A zero is resolved on its own, whatever digits follow it. -/
def given : Escape → List Char
  | short letter code => if knownMarks.contains letter then [Char.ofNat code] else ['\\', letter]
  | octal digits => if digits.head? = some '0' then '\x00' :: digits.tail else '\\' :: digits
  | hex letter digits => '\\' :: letter :: digits
  | lineEnd => []
  | kept c => ['\\', c]

end Escape

def Symbol.isResolved : Symbol → Bool
  | plain _ => true
  | escape found => found.isResolved

def Symbol.given : Symbol → List Char
  | plain c => [c]
  | escape found => found.given

theorem ne_backslash_of_isHexadecimal {c : Char} (h : isHexadecimal c = true) : c ≠ '\\' := by
  rintro rfl
  exact absurd h (by decide)

theorem isHexadecimal_of_isOctal {c : Char} (h : isOctal c = true) : isHexadecimal c = true := by
  simp only [isOctal, isHexadecimal, decide_eq_true_eq] at h ⊢
  omega

/-- Only a zero among the octal digits has a meaning of its own for the reader. -/
theorem escaped?_of_isOctal {c : Char} (h : isOctal c = true) (hc : c ≠ '0') :
    escaped? c = none := by
  have hmarks : knownMarks.all (fun mark => !isOctal mark || mark == '0') = true := by decide
  refine escaped?_eq_none fun hmem => ?_
  have hmark := List.all_eq_true.mp hmarks c hmem
  simp [h, hc] at hmark

theorem escaped?_of_mem_hexEscapes {letter : Char} {width : Nat}
    (h : (letter, width) ∈ hexEscapes) : escaped? letter = none := by
  have hall : hexEscapes.all (fun entry => (escaped? entry.1).isNone) = true := by decide
  exact Option.isNone_iff_eq_none.mp (List.all_eq_true.mp hall _ h)

theorem escaped?_of_kept {c : Char} (hshort : shortEscapes.lookup c = none)
    (hoctal : isOctal c = false) (hline : c ≠ '\n') : escaped? c = none := by
  have hmarks : knownMarks.all (fun mark =>
      (shortEscapes.lookup mark).isSome || isOctal mark || mark == '\n') = true := by decide
  refine escaped?_eq_none fun hmem => ?_
  have hmark := List.all_eq_true.mp hmarks c hmem
  simp [hshort, hoctal, hline] at hmark

theorem getD_escaped?_of_mem_shortEscapes {letter : Char} {code : Nat}
    (h : (letter, code) ∈ shortEscapes) :
    (escaped? letter).getD ['\\', letter] = (Escape.short letter code).given := by
  have hall : shortEscapes.all (fun entry => decide ((escaped? entry.1).getD ['\\', entry.1] =
      (Escape.short entry.1 entry.2).given)) = true := by decide
  exact of_decide_eq_true (List.all_eq_true.mp hall _ h)

/-- What is given for an escape does not depend on what comes after it. -/
theorem unescape_behind {found : Escape} (h : found.IsValid) (rest : List Char) :
    unescape ('\\' :: (found.behind ++ rest)) = found.given ++ unescape rest := by
  cases h with
  | short hshort =>
      rw [Escape.behind, List.singleton_append, unescape_backslash,
        getD_escaped?_of_mem_shortEscapes hshort]
  | @octal first more hfirst hmore =>
      have hplain : ∀ c ∈ more, c ≠ '\\' := fun c hc =>
        ne_backslash_of_isHexadecimal (isHexadecimal_of_isOctal (hmore c hc))
      rw [Escape.behind, List.cons_append, unescape_backslash, unescape_append hplain]
      by_cases hzero : first = '0'
      · subst hzero
        rfl
      · rw [escaped?_of_isOctal hfirst hzero, Escape.given, List.head?_cons,
          if_neg fun heq => hzero (Option.some.inj heq)]
        rfl
  | @hex letter digits hletter hdigits =>
      have hplain : ∀ c ∈ digits, c ≠ '\\' := fun c hc =>
        ne_backslash_of_isHexadecimal (hdigits c hc)
      rw [Escape.behind, List.cons_append, unescape_backslash, unescape_append hplain,
        escaped?_of_mem_hexEscapes hletter]
      rfl
  | lineEnd => rfl
  | kept hshort hoctal hline =>
      rw [Escape.behind, List.singleton_append, unescape_backslash,
        escaped?_of_kept hshort hoctal hline]
      rfl

/-- The reader gives something for each symbol on its own. -/
theorem unescape_flatMap_written {symbols : List Symbol}
    (h : ∀ symbol ∈ symbols, symbol.IsValid) :
    unescape (symbols.flatMap Symbol.written) = symbols.flatMap Symbol.given := by
  induction symbols with
  | nil => rfl
  | cons symbol rest ih =>
      obtain ⟨hsymbol, hrest⟩ := List.forall_mem_cons.mp h
      rw [List.flatMap_cons, List.flatMap_cons, ← ih hrest]
      cases symbol with
      | plain c => exact unescape_cons hsymbol _
      | escape found => exact unescape_behind hsymbol _

/-! ### Where the reader gives the text that a body stands for -/

section Lengths

variable {ι α β : Type} {items : List ι} {longer : ι → List α} {shorter : ι → List β}

theorem length_flatMap_le (h : ∀ item ∈ items, (shorter item).length ≤ (longer item).length) :
    (items.flatMap shorter).length ≤ (items.flatMap longer).length := by
  rw [List.length_flatMap, List.length_flatMap]
  exact List.sum_le_sum h

/-- Texts of one length that are made item by item, no item of the first shorter than in the second,
have items of one length. -/
theorem length_eq_of_length_flatMap_eq
    (h : ∀ item ∈ items, (shorter item).length ≤ (longer item).length)
    (heq : (items.flatMap longer).length = (items.flatMap shorter).length) :
    ∀ item ∈ items, (longer item).length = (shorter item).length := by
  induction items with
  | nil => exact fun item hitem => (List.not_mem_nil hitem).elim
  | cons item rest ih =>
      obtain ⟨hitem, hrest⟩ := List.forall_mem_cons.mp h
      have hle := length_flatMap_le hrest
      rw [List.flatMap_cons, List.flatMap_cons, List.length_append, List.length_append] at heq
      exact List.forall_mem_cons.mpr ⟨by omega, ih hrest (by omega)⟩

end Lengths

/-- What is given for an escape is no shorter than what the escape stands for, and as long only where
the reader resolves it. -/
theorem Escape.IsValid.length_given {found : Escape} (h : found.IsValid) :
    found.codes.length ≤ found.given.length ∧
      (found.given.length = found.codes.length → found.isResolved = true) := by
  cases h with
  | @short letter code hshort =>
      rw [codes, given, isResolved]
      cases knownMarks.contains letter <;> simp
  | @octal first more hfirst hmore =>
      rw [codes, given, isResolved]
      by_cases hzero : first = '0'
      · simp [hzero]
      · simp [hzero]
  | hex hletter hdigits => simp [codes, given]
  | lineEnd => exact ⟨Nat.le_refl 0, fun _ => rfl⟩
  | kept hshort hoctal hline => exact ⟨Nat.le_refl 2, fun _ => rfl⟩

/-- A resolved escape is given as the code points it stands for. -/
theorem Escape.IsValid.map_given {found : Escape} (h : found.IsValid)
    (hresolved : found.isResolved = true) : found.given.map Char.toNat = found.codes := by
  cases h with
  | @short letter code hshort =>
      have hall : shortEscapes.all (fun entry => (Char.ofNat entry.2).toNat == entry.2) = true := by
        decide
      have hcode : (Char.ofNat code).toNat = code := by
        simpa using List.all_eq_true.mp hall _ hshort
      rw [isResolved] at hresolved
      rw [given, if_pos hresolved, List.map_singleton, hcode, codes]
  | octal hfirst hmore =>
      rw [isResolved, beq_iff_eq] at hresolved
      rw [hresolved]
      rfl
  | hex hletter hdigits => cases hresolved
  | lineEnd => rfl
  | kept hshort hoctal hline => rfl

theorem Symbol.IsValid.length_given {symbol : Symbol} (h : symbol.IsValid) :
    symbol.codes.length ≤ symbol.given.length ∧
      (symbol.given.length = symbol.codes.length → symbol.isResolved = true) := by
  cases symbol with
  | plain c => exact ⟨Nat.le_refl 1, fun _ => rfl⟩
  | escape found => exact Escape.IsValid.length_given h

theorem Symbol.IsValid.map_given {symbol : Symbol} (h : symbol.IsValid)
    (hresolved : symbol.isResolved = true) : symbol.given.map Char.toNat = symbol.codes := by
  cases symbol with
  | plain c => rfl
  | escape found => exact Escape.IsValid.map_given h hresolved

/-- **Escapes are resolved in part.** Each escape of a body is given as the reader knows it, whatever
stands around it, and the text that the body stands for comes out if and only if the reader resolves
every escape in it: `\n`, `\r`, `\t`, a backslash, a quote, `\0` with no octal digit behind it, a line
end, or a character without a meaning, which is kept. -/
theorem unescape_means_iff {body : List Char} {symbols : List Symbol}
    (h : symbols? body = some symbols) :
    symbols.flatMap Symbol.written = body ∧ unescape body = symbols.flatMap Symbol.given ∧
      ((unescape body).map Char.toNat = symbols.flatMap Symbol.codes ↔
        ∀ symbol ∈ symbols, symbol.isResolved = true) := by
  obtain ⟨hvalid, hwritten⟩ := symbols?_spec h
  have hgiven : unescape body = symbols.flatMap Symbol.given := by
    rw [← hwritten]
    exact unescape_flatMap_written hvalid
  refine ⟨hwritten, hgiven, ?_⟩
  rw [hgiven]
  constructor
  · intro hsame
    have hlengths : (symbols.flatMap Symbol.given).length =
        (symbols.flatMap Symbol.codes).length := by
      rw [← hsame, List.length_map]
    have hle : ∀ symbol ∈ symbols, symbol.codes.length ≤ symbol.given.length :=
      fun symbol hsymbol => (hvalid symbol hsymbol).length_given.1
    intro symbol hsymbol
    exact (hvalid symbol hsymbol).length_given.2
      (length_eq_of_length_flatMap_eq hle hlengths symbol hsymbol)
  · intro hresolved
    rw [List.map_flatMap]
    exact List.flatMap_congr fun symbol hsymbol =>
      (hvalid symbol hsymbol).map_given (hresolved symbol hsymbol)

/-- A tab, a zero before a letter, a backslash, a line end and a letter without a meaning. -/
theorem unescape_means_iff_known :
    let body := "\\t\\0z\\\\x41\\\n\\d".toList
    let symbols : List Symbol := [.escape (.short 't' 9), .escape (.octal ['0']), .plain 'z',
      .escape (.short '\\' 92), .plain 'x', .plain '4', .plain '1', .escape .lineEnd,
      .escape (.kept 'd')]
    symbols? body = some symbols ∧
      (unescape body).map Char.toNat = [9, 0, 122, 92, 120, 52, 49, 92, 100] := by
  intro body symbols
  have hsymbols : symbols? body = some symbols := by decide +kernel
  obtain ⟨-, -, hmeans⟩ := unescape_means_iff hsymbols
  exact ⟨hsymbols, hmeans.mpr (by decide)⟩

/-- A letter by its hexadecimal digits and a bell come out as they are written, and of a line feed by
its octal digits there comes a zero and the other two digits. -/
theorem escapes_come_out_as_written :
    let body := "\\x41\\a\\012".toList
    let symbols : List Symbol := [.escape (.hex 'x' ['4', '1']), .escape (.short 'a' 7),
      .escape (.octal ['0', '1', '2'])]
    let node : Node := .construct "string" 0 "'\\x41\\a\\012'"
      [.construct "string_start" 0 "'" [], .construct "string_content" 0 "\\x41\\a\\012" [],
        .construct "string_end" 0 "'" []]
    symbols? body = some symbols ∧ symbols.flatMap Symbol.codes = [0x41, 0x07, 0x0A] ∧
      unescape body = "\\x41\\a\x0012".toList ∧
      node.readExpr = .ok (.constant (.str "\\x41\\a\x0012")) := by
  refine ⟨by decide +kernel, by decide, by decide, ?_⟩
  cbv

end Snippet.Source
