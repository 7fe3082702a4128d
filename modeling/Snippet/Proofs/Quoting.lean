import Snippet.Proofs.Escapes
import Snippet.Text.Quoted

/-!
# Quoted strings read back

A string in pseudocode is written as a literal of the source language, so the reader can be asked what
it means. The quotes come off as they were put on, since the text between them never starts with the
quote that is around it. What is written for a character is read as that character, but a control
character without a letter of its own is written by its code, which the reader keeps as it is.
-/

namespace Snippet.Text

open Source

/-- The control characters that are written by their code. -/
def isCoded (c : Char) : Bool :=
  (c.toNat < 0x20 && c != '\n' && c != '\r' && c != '\t') || c.toNat == 0x7F

/-- A backslash, the letter x and the two hexadecimal digits of a code. -/
def coded (c : Char) : List Char :=
  ['\\', 'x', Nat.digitChar (c.toNat / 16), Nat.digitChar (c.toNat % 16)]

/-- What is read where a character was written in quotes. -/
def readBack (c : Char) : List Char := if isCoded c then coded c else [c]

/-! ### One character -/

theorem toNat_lt_of_isCoded {c : Char} (h : isCoded c = true) : c.toNat < 128 := by
  simp only [isCoded, Bool.or_eq_true, Bool.and_eq_true, decide_eq_true_eq, beq_iff_eq] at h
  omega

theorem lowerHex_two {code : Nat} (h : code < 256) :
    lowerHex 2 code = [Nat.digitChar (code / 16), Nat.digitChar (code % 16)] := by
  rw [lowerHex]
  by_cases hsmall : code < 16
  · rw [Nat.toDigits_of_lt_base hsmall, Nat.div_eq_of_lt hsmall, Nat.mod_eq_of_lt hsmall]
    rfl
  · rw [Nat.toDigits_of_base_le (by omega) (by omega), Nat.toDigits_of_lt_base (by omega)]
    rfl

theorem digitChar_ne_backslash {digit : Nat} (h : digit < 16) : Nat.digitChar digit ≠ '\\' := by
  have hall : ∀ digit < 16, Nat.digitChar digit ≠ '\\' := by decide
  exact hall digit h

theorem unescape_coded {c : Char} (h : isCoded c = true) (rest : List Char) :
    unescape (coded c ++ rest) = coded c ++ unescape rest := by
  have hlt := toNat_lt_of_isCoded h
  have hhigh : Nat.digitChar (c.toNat / 16) ≠ '\\' := digitChar_ne_backslash (by omega)
  have hlow : Nat.digitChar (c.toNat % 16) ≠ '\\' := digitChar_ne_backslash (by omega)
  calc unescape (coded c ++ rest)
      = ['\\', 'x'] ++ unescape (Nat.digitChar (c.toNat / 16) ::
          Nat.digitChar (c.toNat % 16) :: rest) := unescape_backslash 'x' _
    _ = coded c ++ unescape rest := by
        rw [unescape_cons hhigh, unescape_cons hlow]
        rfl

/-! ### Quotes -/

/-- One quote opens a text in which the first character is another. -/
theorem openingQuote_cons {quote : Char} {inner : List Char} (h : ∀ d ∈ inner.head?, d ≠ quote) :
    openingQuote (quote :: (inner ++ [quote])) = [quote] := by
  have htriple : ∀ {mark : Char} {rest : List Char},
      quote :: (inner ++ [quote]) ≠ mark :: mark :: mark :: rest := by
    intro mark rest heq
    obtain ⟨rfl, hinner⟩ := List.cons.inj heq
    cases inner with
    | nil => cases hinner
    | cons d more => exact h d rfl (List.cons.inj hinner).1
  rw [openingQuote.eq_def]
  split
  · next heq => exact absurd heq htriple
  · next heq => exact absurd heq htriple
  · rfl

theorem unquote?_cons (quote : Char) (inner : List Char) :
    unquote? [quote] (quote :: (inner ++ [quote])) = some inner := by
  have hfront : rest? [quote] (quote :: (inner ++ [quote])) = some (inner ++ [quote]) :=
    rest?_eq_some_iff.mpr rfl
  have hback : rest? [quote].reverse (inner ++ [quote]).reverse = some inner.reverse :=
    rest?_eq_some_iff.mpr (List.reverse_append ..)
  rw [unquote?, hfront]
  simp only [Option.bind_eq_bind, Option.bind_some, hback, List.reverse_reverse]
  rfl

section Quotes

variable {quote : Char} (hquote : quote = '\'' ∨ quote = '"')

include hquote

theorem pseudocodeEscape_of_isCoded {c : Char} (h : isCoded c = true) :
    pseudocodeEscape quote c = coded c := by
  have hne : c ≠ quote := by
    rintro rfl
    rcases hquote with rfl | rfl <;> cases h
  have hcontrol : (c.toNat < 0x20 || c.toNat = 0x7F) = true := by
    simp only [isCoded, Bool.or_eq_true, Bool.and_eq_true, decide_eq_true_eq, beq_iff_eq] at h ⊢
    omega
  have hlt := toNat_lt_of_isCoded h
  rw [pseudocodeEscape]
  · rw [if_neg hne, if_pos hcontrol, lowerHex_two (by omega)]
    rfl
  all_goals
    rintro rfl
    cases h

/-- What is written for a character is read back, whatever comes after it. -/
theorem unescape_pseudocodeEscape (c : Char) (rest : List Char) :
    unescape (pseudocodeEscape quote c ++ rest) = readBack c ++ unescape rest := by
  by_cases hcoded : isCoded c = true
  · rw [pseudocodeEscape_of_isCoded hquote hcoded, readBack, if_pos hcoded, unescape_coded hcoded]
  · rw [readBack, if_neg hcoded, pseudocodeEscape.eq_def]
    split
    · exact unescape_backslash '\\' rest
    · exact unescape_backslash 'n' rest
    · exact unescape_backslash 'r' rest
    · exact unescape_backslash 't' rest
    · next hbackslash hline hreturn htab =>
        split
        · next heq =>
            rw [heq]
            rcases hquote with rfl | rfl
            · exact unescape_backslash '\'' rest
            · exact unescape_backslash '"' rest
        · split
          · next hcontrol =>
              -- A control character with a letter of its own has been settled above.
              refine absurd ?_ hcoded
              simp_all [isCoded]
          · exact unescape_cons hbackslash rest

/-- Quoted text never starts with the quote. -/
theorem head?_pseudocodeEscape_ne (c : Char) : ∀ d ∈ (pseudocodeEscape quote c).head?, d ≠ quote := by
  have hbackslash : '\\' ≠ quote := by
    rcases hquote with rfl | rfl <;> decide
  rw [pseudocodeEscape.eq_def]
  split
  case h_5 =>
    split
    · simpa using hbackslash
    · split
      · simpa using hbackslash
      · simpa
  all_goals simpa using hbackslash

/-! ### A text -/

theorem unescape_flatMap_pseudocodeEscape (text : List Char) :
    unescape (text.flatMap (pseudocodeEscape quote)) = text.flatMap readBack := by
  induction text with
  | nil => rfl
  | cons c rest ih =>
      rw [List.flatMap_cons, List.flatMap_cons, unescape_pseudocodeEscape hquote, ih]

theorem head?_flatMap_pseudocodeEscape_ne (text : List Char) :
    ∀ d ∈ (text.flatMap (pseudocodeEscape quote)).head?, d ≠ quote := by
  induction text with
  | nil => simp
  | cons c rest ih =>
      intro d hd
      rw [List.flatMap_cons, List.head?_append, Option.mem_def, Option.or_eq_some_iff] at hd
      rcases hd with hfirst | ⟨-, hrest⟩
      · exact head?_pseudocodeEscape_ne hquote c d hfirst
      · exact ih d hrest

/-- A literal in single quotes of either kind means what its inside means. -/
theorem stringValue_cons {inner : List Char} (h : ∀ d ∈ inner.head?, d ≠ quote) :
    stringValue (quote :: (inner ++ [quote])) = .ok (unescape inner) := by
  have hspan : (quote :: (inner ++ [quote])).span (fun c => c != '"' && c != '\'') =
      ([], quote :: (inner ++ [quote])) := by
    rcases hquote with rfl | rfl <;> rfl
  rw [stringValue, hspan]
  simp only [openingQuote_cons h, unquote?_cons quote inner]
  rfl

end Quotes

theorem stringValue_pseudocodeString (text : String) :
    stringValue (pseudocodeString text).toList = .ok (text.toList.flatMap readBack) := by
  have hquote : pseudocodeQuote text.toList = '\'' ∨ pseudocodeQuote text.toList = '"' := by
    rw [pseudocodeQuote]
    split
    · exact .inr rfl
    · exact .inl rfl
  rw [pseudocodeString, String.toList_ofList, enclose,
    stringValue_cons hquote (head?_flatMap_pseudocodeEscape_ne hquote text.toList),
    unescape_flatMap_pseudocodeEscape hquote]

/-- A text is read back unchanged where none of its characters is written by its code. -/
theorem flatMap_readBack_eq_iff (text : List Char) :
    text.flatMap readBack = text ↔ ∀ c ∈ text, isCoded c = false := by
  have hwhole : text.flatMap (fun c => [c]) = text := List.flatMap_singleton' text
  constructor
  · intro hsame
    have hle : ∀ c ∈ text, [c].length ≤ (readBack c).length := by
      intro c hc
      rw [readBack]
      split
      · exact Nat.succ_le_succ (Nat.zero_le 3)
      · exact Nat.le_refl 1
    have hlength := length_eq_of_length_flatMap_eq hle (by rw [hsame, hwhole])
    intro c hc
    rw [Bool.eq_false_iff]
    intro hcoded
    have hone := hlength c hc
    rw [readBack, if_pos hcoded] at hone
    cases hone
  · intro hplain
    calc text.flatMap readBack
        = text.flatMap (fun c => [c]) := by
          refine List.flatMap_congr fun c hc => ?_
          rw [readBack, hplain c hc]
          rfl
      _ = text := hwhole

/-- **Quoted strings read back.** Every string that is written in quotes is read, and what is read is
the string with each control character that has no letter of its own replaced by a backslash, an x
and the two hexadecimal digits of its code. So the string itself is read back exactly where there are
no such characters. -/
theorem read_pseudocodeString {node : Node} {text : String} (htext : node.text = pseudocodeString text)
    (hplain : node.parts.any (·.val.isInterpolation) = false) :
    node.readString = .ok (String.ofList (text.toList.flatMap readBack)) ∧
      (node.readString = .ok text ↔ ∀ c ∈ text.toList, isCoded c = false) := by
  have hread : node.readString = .ok (String.ofList (text.toList.flatMap readBack)) := by
    rw [Node.readString, if_neg (by rw [hplain]; decide), htext, stringValue_pseudocodeString]
  refine ⟨hread, ?_⟩
  rw [hread, Except.ok.injEq, ← flatMap_readBack_eq_iff]
  constructor
  · intro hsame
    have hchars := congrArg String.toList hsame
    rwa [String.toList_ofList] at hchars
  · intro hsame
    rw [hsame, String.ofList_toList]

/-- Both quotes, a backslash at the end, a tab and a bell. -/
theorem read_pseudocodeString_bell :
    let text := "\"it's\"\t\x07\\"
    let node := Node.construct "string" 0 (pseudocodeString text)
      [.construct "string_start" 0 "'" [], .construct "string_content" 0 "\"it\\'s\"\\t\\x07\\\\" [],
        .construct "string_end" 0 "'" []]
    node.text.toList = "'\"it\\'s\"\\t\\x07\\\\'".toList ∧
      node.readString = .ok (String.ofList (text.toList.flatMap readBack)) ∧
      text.toList.flatMap readBack = "\"it's\"\t\\x07\\".toList := by
  intro text node
  have hplain : node.parts.any (·.val.isInterpolation) = false := by decide
  exact ⟨by decide, (read_pseudocodeString rfl hplain).1, by decide⟩

end Snippet.Text
