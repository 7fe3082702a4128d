import Mathlib
import Snippet.Proofs.Outline.Characters
import Snippet.Target.Hooks

/-!
# Names that stay identifiers

Styling takes the underscores off both ends of a name, keeps it from being a keyword and, in
TypeScript, folds it to camel case. Only the first step can spoil an identifier: the character it
leaves in front is then a digit, or there is none. A folded name is never a keyword, as folding
leaves a capital behind where it changes anything.
-/

namespace Snippet

open Layout (BraceStyle)
open Render (Surroundings)
open Text

/-! ### Identifiers -/

def isWordChar (c : Char) : Bool := c.isAlphanum || c == '_'

/-- Letters, digits and underscores of ASCII, at least one, and no digit in front. -/
def IsIdentifier (text : String) : Prop :=
  ∃ first rest, text.toList = first :: rest ∧ first.isDigit = false ∧
    (first :: rest).all isWordChar = true

/-- What is left of a name without the underscores in front starts with a letter. -/
def StartsWithLetter (ident : String) : Prop :=
  ∃ first rest, dropUnderscores ident.toList = first :: rest ∧ first.isDigit = false

theorem isIdentifier_iff {text : String} {first : Char} {rest : List Char}
    (h : text.toList = first :: rest) (hall : (first :: rest).all isWordChar = true) :
    IsIdentifier text ↔ first.isDigit = false := by
  constructor
  · rintro ⟨other, others, heq, hdigit, -⟩
    obtain ⟨rfl, -⟩ := List.cons.inj (h.symm.trans heq)
    exact hdigit
  · exact fun hdigit => ⟨first, rest, h, hdigit, hall⟩

/-! ### Trimming -/

theorem head_dropUnderscores_ne {name : List Char} {first : Char} {rest : List Char}
    (h : dropUnderscores name = first :: rest) : first ≠ '_' := by
  have hhead := List.head?_dropWhile_not (· == '_') name
  rw [← dropUnderscores, h] at hhead
  simpa using hhead

/-- Trimming at the end leaves the character in front. -/
theorem exists_trimUnderscores_eq {ident : String} {first : Char} {rest : List Char}
    (h : dropUnderscores ident.toList = first :: rest) :
    ∃ others, (trimUnderscores ident).toList = first :: others := by
  have hfirst := head_dropUnderscores_ne h
  have hreverse : dropUnderscores (first :: rest).reverse =
      dropUnderscores rest.reverse ++ [first] := by
    rw [List.reverse_cons, dropUnderscores, List.dropWhile_append]
    split
    · next hempty =>
        rw [List.isEmpty_iff] at hempty
        simp [dropUnderscores, hempty, hfirst]
    · rfl
  refine ⟨(dropUnderscores rest.reverse).reverse, ?_⟩
  rw [trimUnderscores, String.toList_ofList, h, hreverse, List.reverse_append]
  rfl

theorem trimUnderscores_eq_empty {ident : String} (h : dropUnderscores ident.toList = []) :
    trimUnderscores ident = "" := by
  rw [trimUnderscores, h]
  rfl

/-! ### Folding -/

/-- Folding that leaves no capital has changed nothing. -/
theorem lowerCamelChars_eq_self {chars : List Char}
    (h : (lowerCamelChars chars).any Char.isUpper = false) : lowerCamelChars chars = chars := by
  fun_induction lowerCamelChars chars with
  | case1 c rest hlower ih => simp [isUpper_toUpper hlower] at h
  | case2 c rest hlower ih =>
      rw [List.any_cons, Bool.or_eq_false_iff] at h
      rw [ih h.2]
  | case3 c rest _ ih =>
      rw [List.any_cons, Bool.or_eq_false_iff] at h
      rw [ih h.2]
  | case4 => rfl

/-! ### Styled names -/

theorem styledName_not_mem_keywords (dialect : Dialect) (ident : String) :
    dialect.styledName ident ∉ dialect.keywords := by
  rw [Dialect.styledName.eq_def]
  dsimp only
  split
  · next hkeyword =>
      -- The word with its underscore is not the only keyword.
      cases dialect with
      | cpp =>
          obtain hword : trimUnderscores ident = "or" := by simpa [Dialect.keywords] using hkeyword
          rw [hword]
          decide
      | typeScript typed =>
          obtain hword : trimUnderscores ident = "in" := by simpa [Dialect.keywords] using hkeyword
          rw [hword]
          simp [Dialect.keywords]
  · next hother =>
      cases dialect with
      | cpp => simpa using hother
      | typeScript typed =>
          intro hmem
          have hfolded : lowerCamel (trimUnderscores ident) = "in" := by
            simpa [Dialect.keywords] using hmem
          have hchars : lowerCamelChars (trimUnderscores ident).toList = "in".toList := by
            rw [← hfolded, lowerCamel, String.toList_ofList]
          have hsame := lowerCamelChars_eq_self (by rw [hchars]; decide)
          have hword : trimUnderscores ident = "in" :=
            String.toList_injective (hsame.symm.trans hchars)
          exact hother (by rw [hword]; rfl)

theorem styledName_eq_empty (dialect : Dialect) {ident : String}
    (h : dropUnderscores ident.toList = []) : dialect.styledName ident = "" := by
  rw [Dialect.styledName.eq_def, trimUnderscores_eq_empty h]
  rcases dialect with _ | typed <;> rfl

/-- A keyword's underscore comes last, and folding starts behind the character in front. -/
theorem exists_styledName_eq (dialect : Dialect) {ident : String} {first : Char} {rest : List Char}
    (h : dropUnderscores ident.toList = first :: rest) :
    ∃ others, (dialect.styledName ident).toList = first :: others := by
  obtain ⟨others, htrimmed⟩ := exists_trimUnderscores_eq h
  rw [Dialect.styledName.eq_def]
  dsimp only
  split
  · exact ⟨others ++ ['_'], by rw [String.toList_append, htrimmed]; rfl⟩
  · cases dialect with
    | cpp => exact ⟨others, htrimmed⟩
    | typeScript typed =>
        refine ⟨lowerCamelChars others, ?_⟩
        rw [lowerCamel, String.toList_ofList, htrimmed,
          lowerCamelChars_cons (head_dropUnderscores_ne h)]

theorem isWordChar_of_isUpper {c : Char} (h : c.isUpper = true) : isWordChar c = true := by
  simp [isWordChar, Char.isAlphanum, Char.isAlpha, h]

theorem styledName_all_isWordChar (dialect : Dialect) {ident : String}
    (h : ident.toList.all isWordChar = true) :
    (dialect.styledName ident).toList.all isWordChar = true :=
  List.all_eq_true.mpr <|
    forall_mem_styledName (by decide) (fun _ => isWordChar_of_isUpper) dialect
      (List.all_eq_true.mp h)

theorem styledName_isIdentifier_iff (dialect : Dialect) {ident : String} (h : IsIdentifier ident) :
    IsIdentifier (dialect.styledName ident) ↔ StartsWithLetter ident := by
  obtain ⟨front, behind, hchars, -, hall⟩ := h
  have hstyled := styledName_all_isWordChar dialect (hchars ▸ hall)
  cases hleft : dropUnderscores ident.toList with
  | nil =>
      rw [styledName_eq_empty dialect hleft]
      constructor
      · rintro ⟨first, rest, hempty, -⟩
        cases hempty
      · rintro ⟨first, rest, heq, -⟩
        cases hleft.symm.trans heq
  | cons first rest =>
      obtain ⟨others, hothers⟩ := exists_styledName_eq dialect hleft
      rw [isIdentifier_iff hothers (hothers ▸ hstyled)]
      constructor
      · exact fun hdigit => ⟨first, rest, hleft, hdigit⟩
      · rintro ⟨other, others, heq, hdigit⟩
        obtain ⟨rfl, -⟩ := List.cons.inj (hleft.symm.trans heq)
        exact hdigit

/-! ### Names where they stand -/

/-- A name that the language has no word of its own for is never spelled as a keyword, and it stays
an identifier where something but underscores is in it and the first such character is a letter. -/
theorem name_isIdentifier_iff (dialect : Dialect) (style : BraceStyle) (around : Surroundings)
    (asType : Bool) {ident : String} (hident : IsIdentifier ident)
    (hown : dialect.rename? ident = none) :
    Target.nameText (.curly dialect style) around ident asType ∉ dialect.keywords ∧
      (IsIdentifier (Target.nameText (.curly dialect style) around ident asType) ↔
        StartsWithLetter ident) := by
  rw [Target.nameText, Dialect.name, hown]
  dsimp only
  split
  · next hself =>
      obtain rfl : ident = "self" := by
        rw [Bool.and_eq_true, beq_iff_eq] at hself
        exact hself.2
      have hthis : "this" ∉ dialect.keywords := by
        rcases dialect with _ | typed
        · decide
        · simp [Dialect.keywords]
      refine ⟨hthis, fun _ => ⟨'s', "elf".toList, rfl, rfl⟩, fun _ => ?_⟩
      exact ⟨'t', "his".toList, rfl, rfl, rfl⟩
  · exact ⟨styledName_not_mem_keywords dialect ident, styledName_isIdentifier_iff dialect hident⟩

theorem name_isIdentifier_iff_in :
    (IsIdentifier "__in_vertex_2_" ∧ (Dialect.typeScript true).rename? "__in_vertex_2_" = none) ∧
      (Dialect.typeScript true).name .outermost "__in_vertex_2_" = "inVertex_2" ∧
      "inVertex_2" ∉ (Dialect.typeScript true).keywords ∧
        (IsIdentifier "inVertex_2" ↔ StartsWithLetter "__in_vertex_2_") := by
  have hident : IsIdentifier "__in_vertex_2_" := ⟨'_', "_in_vertex_2_".toList, rfl, rfl, rfl⟩
  have hown : (Dialect.typeScript true).rename? "__in_vertex_2_" = none := rfl
  exact ⟨⟨hident, hown⟩, rfl,
    name_isIdentifier_iff (.typeScript true) .kAndR .outermost false hident hown⟩

/-- Nothing is left of a name of underscores, and a digit comes in front behind them. -/
theorem underscores_spoil_identifiers :
    IsIdentifier "_" ∧ IsIdentifier "_1" ∧
      Dialect.cpp.name .outermost "_" = "" ∧ ¬ IsIdentifier "" ∧
      Dialect.cpp.name .outermost "_1" = "1" ∧ ¬ IsIdentifier "1" := by
  refine ⟨⟨'_', [], rfl, rfl, rfl⟩, ⟨'_', ['1'], rfl, rfl, rfl⟩, rfl, ?_, rfl, ?_⟩
  · rintro ⟨first, rest, hempty, -⟩
    cases hempty
  · rintro ⟨first, rest, heq, hdigit, -⟩
    obtain ⟨rfl, -⟩ := List.cons.inj (show ['1'] = first :: rest from heq)
    cases hdigit

end Snippet
