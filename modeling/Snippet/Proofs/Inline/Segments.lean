import Mathlib
import Snippet.Proofs.Outline.Characters
import Snippet.Proofs.Outline.Piece
import Snippet.Proofs.Refusal.Settled
import Snippet.Proofs.Resolution
import Snippet.Proofs.Visited
import Snippet.Proofs.WellFormed

/-!
# Inline mathematics

A line of pseudocode is prose with segments of mathematics between dollar signs. A text that goes into
a segment must have no dollar sign of its own. In an expression there is only one thing that writes
one: a sentence that takes arguments, which stand in a segment after it.
-/

namespace Snippet

open Render
open Text

/-! ### Segments -/

/-- Segments between dollar signs, with characters of a kind outside of them. -/
inductive Segments (Outside : Char → Prop) : List Char → Prop where
  | nil : Segments Outside []
  | outside {c : Char} {rest : List Char} (hc : Outside c) (h : Segments Outside rest) :
      Segments Outside (c :: rest)
  | segment {inner rest : List Char} (hinner : '$' ∉ inner) (h : Segments Outside rest) :
      Segments Outside ('$' :: (inner ++ '$' :: rest))

/-- The dollar signs of a text pair up. -/
def Paired (text : String) : Prop := Segments (· ≠ '$') text.toList

/-- And every command stands in a segment. -/
def InlineMath (text : String) : Prop := Segments (fun c => c ≠ '$' ∧ c ≠ '\\') text.toList

namespace Segments

variable {Outside Other : Char → Prop} {first second : List Char}

theorem of_forall (h : ∀ c ∈ first, Outside c) : Segments Outside first := by
  induction first with
  | nil => exact .nil
  | cons c rest ih =>
      obtain ⟨hc, hrest⟩ := List.forall_mem_cons.mp h
      exact .outside hc (ih hrest)

theorem append (h₁ : Segments Outside first) (h₂ : Segments Outside second) :
    Segments Outside (first ++ second) := by
  induction h₁ with
  | nil => exact h₂
  | outside hc _ ih => exact .outside hc ih
  | segment hinner _ ih =>
      rw [List.cons_append, List.append_assoc, List.cons_append]
      exact .segment hinner ih

theorem mono (h : Segments Outside first) (himp : ∀ c, Outside c → Other c) :
    Segments Other first := by
  induction h with
  | nil => exact .nil
  | outside hc _ ih => exact .outside (himp _ hc) ih
  | segment hinner _ ih => exact .segment hinner ih

/-! Whether a text is in segments is found in one pass, which is inside of a segment or not. -/

section Decidable

variable [DecidablePred Outside]

/-- The rest of a text after an even or, inside of a segment, an odd number of dollar signs. -/
def check (Outside : Char → Prop) [DecidablePred Outside] : Bool → List Char → Bool
  | inside, [] => !inside
  | inside, c :: rest =>
    if c = '$' then check Outside (!inside) rest
    else (inside || decide (Outside c)) && check Outside inside rest

theorem check_segment {inner rest : List Char} (h : '$' ∉ inner) :
    check Outside true (inner ++ '$' :: rest) = check Outside false rest := by
  induction inner with
  | nil => simp [check]
  | cons c inner ih =>
      rw [List.mem_cons, not_or] at h
      rw [List.cons_append, check, if_neg (Ne.symm h.1), Bool.true_or, Bool.true_and, ih h.2]

theorem check_of_segments (hdollar : ¬Outside '$') (h : Segments Outside first) :
    check Outside false first = true := by
  induction h with
  | nil => rfl
  | @outside c rest hc _ ih =>
      have hne : c ≠ '$' := fun heq => hdollar (heq ▸ hc)
      simp [check, hne, hc, ih]
  | segment hinner _ ih =>
      rw [check, if_pos rfl, Bool.not_false, check_segment hinner]
      exact ih

/-- What is left inside of a segment has the end of it. -/
theorem of_check : (chars : List Char) →
    (check Outside false chars = true → Segments Outside chars) ∧
      (check Outside true chars = true → ∃ inner rest, chars = inner ++ '$' :: rest ∧
        '$' ∉ inner ∧ Segments Outside rest)
  | [] => ⟨fun _ => .nil, fun h => by simp [check] at h⟩
  | c :: rest => by
      obtain ⟨houtside, hinside⟩ := of_check rest
      by_cases hc : c = '$'
      · subst hc
        refine ⟨fun h => ?_, fun h => ⟨[], rest, rfl, by simp, houtside (by simpa [check] using h)⟩⟩
        obtain ⟨inner, after, rfl, hinner, hafter⟩ := hinside (by simpa [check] using h)
        exact .segment hinner hafter
      · refine ⟨fun h => ?_, fun h => ?_⟩
        · obtain ⟨hout, hrest⟩ : Outside c ∧ check Outside false rest = true := by
            simpa [check, hc] using h
          exact .outside hout (houtside hrest)
        · obtain ⟨inner, after, rfl, hinner, hafter⟩ := hinside (by simpa [check, hc] using h)
          exact ⟨c :: inner, after, rfl, by simp [Ne.symm hc, hinner], hafter⟩

theorem check_iff (hdollar : ¬Outside '$') :
    check Outside false first = true ↔ Segments Outside first :=
  ⟨(of_check first).1, check_of_segments hdollar⟩

end Decidable

end Segments

instance (text : String) : Decidable (Paired text) :=
  decidable_of_iff _ (Segments.check_iff fun h => h rfl)

instance (text : String) : Decidable (InlineMath text) :=
  decidable_of_iff _ (Segments.check_iff fun h => h.1 rfl)

example : Paired "Return $a$" ∧ ¬InlineMath "Return $a$ \\cdot b" := by decide

theorem InlineMath.paired {text : String} (h : InlineMath text) : Paired text :=
  Segments.mono h fun _ hc => hc.1

theorem InlineMath.append {first second : String} (h₁ : InlineMath first) (h₂ : InlineMath second) :
    InlineMath (first ++ second) := by
  rw [InlineMath, String.toList_append]
  exact Segments.append h₁ h₂

/-! ### Characters that are watched for -/

/-- A character that may stand outside of segments in a line. -/
def isProse (c : Char) : Bool := c != '$' && c != '\\' && c != '\n'

/-- A text without a character. -/
def Free (d : Char) (text : String) : Prop := d ∉ text.toList

/-- The characters that split a segment. -/
def Splits (d : Char) : Prop := d = '$' ∨ d = '\n'

@[simp]
theorem free_append {d : Char} {first second : String} :
    Free d (first ++ second) ↔ Free d first ∧ Free d second := by
  simp [Free]

theorem Splits.free {d : Char} (hd : Splits d) {text : String}
    (h : text.toList.all (fun c => c != '$' && c != '\n') = true) : Free d text := by
  intro hmem
  have hc := List.all_eq_true.mp h d hmem
  rcases hd with rfl | rfl
  · simp at hc
  · simp at hc

theorem Splits.free_of_isProse {d : Char} (hd : Splits d) {text : String}
    (h : text.toList.all isProse = true) : Free d text := by
  intro hmem
  have hc := List.all_eq_true.mp h d hmem
  rcases hd with rfl | rfl
  · simp [isProse] at hc
  · simp [isProse] at hc

theorem inlineMath_of_isProse {text : String} (h : text.toList.all isProse = true) :
    InlineMath text := by
  refine Segments.of_forall fun c hc => ?_
  have hprose := List.all_eq_true.mp h c hc
  simp only [isProse, Bool.and_eq_true, bne_iff_ne] at hprose
  exact hprose.1

theorem inlineMath_math {text : String} (h : Free '$' text) : InlineMath (Pseudocode.math text) := by
  have hsegment : Segments (fun c => c ≠ '$' ∧ c ≠ '\\') ('$' :: (text.toList ++ '$' :: [])) :=
    .segment h .nil
  simpa [InlineMath, Pseudocode.math] using hsegment

/-! ### Names and constants -/

/-- Neither names nor constants have dollar signs or backslashes, and no name has two lines. -/
def Leaf.isTame : Leaf → Bool
  | .name ident => ident.toList.all isProse
  | .constant (.str text) | .note (.str text) => text.toList.all fun c => c != '$' && c != '\\'
  | _ => true

theorem isProse_of_isUpper {c : Char} (h : c.isUpper = true) : isProse c = true := by
  have hmarks : (['$', '\\', '\n'] : List Char).any Char.isUpper = false := by decide
  have hnot := contains_eq_false_of_isUpper hmarks h
  simpa [isProse, and_assoc] using hnot

theorem isProse_toUpper {c : Char} (h : isProse c = true) : isProse c.toUpper = true := by
  by_cases hlower : c.isLower = true
  · exact isProse_of_isUpper (isUpper_toUpper hlower)
  · rwa [Char.toUpper_eq_of_not_isLower hlower]

theorem isProse_ofNat {code : Nat} (h : code ≠ 36 ∧ code ≠ 92 ∧ code ≠ 10) :
    isProse (Char.ofNat code) = true := by
  have hne {mark : Char} (hmark : mark.toNat ≠ 0) (hcode : code ≠ mark.toNat) :
      Char.ofNat code ≠ mark := by
    intro heq
    have hnat := Char.toNat_ofNat code
    rw [heq] at hnat
    split at hnat
    · exact hcode hnat.symm
    · exact hmark hnat
  obtain ⟨hdollar, hbackslash, hnewline⟩ := h
  simp only [isProse, Bool.and_eq_true, bne_iff_ne]
  exact ⟨⟨hne (by decide) hdollar, hne (by decide) hbackslash⟩, hne (by decide) hnewline⟩

/-- No capital is a mark. -/
theorem isProse_of_mem_capital {c d : Char} (h : isProse c = true) (hd : d ∈ capital c) :
    isProse d = true := by
  have hlong : longCapitals.all (fun entry =>
      entry.2.all fun code => code != 36 && code != 92 && code != 10) = true := by decide
  have hruns : caseRuns.all (fun run => 93 ≤ run.first + run.distance ||
      run.first == run.last && [73, 75, 83].contains (run.first + run.distance)) = true := by decide
  rw [capital] at hd
  split at hd
  · rw [List.mem_singleton.mp hd]
    exact isProse_toUpper h
  · split at hd
    · next codes hlookup =>
        obtain ⟨before, after, htable, -⟩ := List.lookup_eq_some_iff.mp hlookup
        obtain ⟨code, hcode, rfl⟩ := List.mem_map.mp hd
        have hcodes := List.all_eq_true.mp hlong (c.toNat, codes) (by simp [htable])
        have hok := List.all_eq_true.mp hcodes code hcode
        exact isProse_ofNat (by simpa [and_assoc] using hok)
    · split at hd
      · next run hfind =>
          have hrun := List.all_eq_true.mp hruns run (List.mem_of_find?_eq_some hfind)
          have hcovers := List.find?_some hfind
          simp only [CaseRun.covers, Bool.and_eq_true, decide_eq_true_eq] at hcovers
          rw [List.mem_singleton.mp hd]
          refine isProse_ofNat ?_
          simp at hrun
          omega
      · rw [List.mem_singleton.mp hd]
        exact h

/-- The words of a name are prose. -/
theorem isProse_sentence {name : String} (h : name.toList.all isProse = true) (capitalized : Bool) :
    (sentence name capitalized).toList.all isProse = true := by
  have hwords : ∀ d ∈ name.toList.map (fun c => if c = '_' then ' ' else c), isProse d = true := by
    intro d hd
    obtain ⟨c, hc, rfl⟩ := List.mem_map.mp hd
    by_cases hunderscore : c = '_'
    · rw [if_pos hunderscore]
      rfl
    · rw [if_neg hunderscore]
      exact List.all_eq_true.mp h c hc
  rw [List.all_eq_true, sentence, String.toList_ofList]
  cases capitalized with
  | false => exact hwords
  | true =>
      rw [if_pos rfl]
      generalize name.toList.map (fun c => if c = '_' then ' ' else c) = words at hwords ⊢
      cases words with
      | nil => simp [capitalizeChars]
      | cons c rest =>
          intro d hd
          rcases List.mem_append.mp hd with hcapital | hrest
          · exact isProse_of_mem_capital (hwords c List.mem_cons_self) hcapital
          · exact hwords d (List.mem_cons_of_mem c hrest)

theorem isProse_trimUnderscores {name : String} (h : name.toList.all isProse = true) :
    (trimUnderscores name).toList.all isProse = true :=
  List.all_eq_true.mpr (forall_mem_trimUnderscores (List.all_eq_true.mp h))

theorem isProse_lowerCamel {name : String} (h : name.toList.all isProse = true) :
    (lowerCamel name).toList.all isProse = true := by
  rw [lowerCamel, String.toList_ofList, List.all_eq_true]
  exact forall_mem_lowerCamelChars (fun _ => isProse_of_isUpper) (List.all_eq_true.mp h)

theorem isProse_of_numeral {text : String} (h : ∀ c ∈ text.toList, c ∈ numeralCharacters) :
    text.toList.all isProse = true := by
  have hall : numeralCharacters.all isProse = true := by decide
  exact List.all_eq_true.mpr fun c hc => List.all_eq_true.mp hall c (h c hc)

theorem isProse_splitAtLastUnderscore {name head tail : String}
    (h : name.toList.all isProse = true) (hsplit : splitAtLastUnderscore name = some (head, tail)) :
    head.toList.all isProse = true ∧ tail.toList.all isProse = true := by
  have hreversed : ∀ c ∈ name.toList.reverse, isProse c = true := fun c hc =>
    List.all_eq_true.mp h c (List.mem_reverse.mp hc)
  rw [splitAtLastUnderscore] at hsplit
  split at hsplit
  · cases hsplit
  · next underscore front hfront =>
      obtain ⟨rfl, rfl⟩ := Prod.mk.inj (Option.some.inj hsplit)
      have hdropped : ∀ c ∈ front, isProse c = true := fun c hc =>
        hreversed c (List.dropWhile_subset _ (hfront ▸ List.mem_cons_of_mem underscore hc))
      have htaken : ∀ c ∈ name.toList.reverse.takeWhile (· != '_'), isProse c = true := fun c hc =>
        hreversed c (List.takeWhile_subset _ hc)
      simp only [List.all_eq_true, String.toList_ofList, List.mem_reverse]
      exact ⟨hdropped, htaken⟩

section Hooks

variable {d : Char} (hd : Splits d)

include hd

theorem Splits.symbol {ident : String} (h : ident.toList.all isProse = true) :
    Free d (Pseudocode.symbol ident) := by
  have htrimmed := isProse_trimUnderscores h
  rw [Pseudocode.symbol]
  split
  · simp [hd.free_of_isProse h, hd.free]
  · dsimp only
    split
    · next head tail hsplit =>
        obtain ⟨hhead, htail⟩ := isProse_splitAtLastUnderscore htrimmed hsplit
        simp [hd.free_of_isProse (isProse_lowerCamel hhead), hd.free_of_isProse htail, hd.free]
    · exact hd.free_of_isProse htrimmed

theorem Splits.name (around : Surroundings) {ident : String} (h : ident.toList.all isProse = true)
    (asType : Bool) : Free d (Pseudocode.name around ident asType) := by
  have hspelled : Free d
      ((if asType then Pseudocode.typeName? ident else none).getD (Pseudocode.symbol ident)) := by
    cases asType with
    | false =>
        rw [if_neg Bool.false_ne_true, Option.getD_none]
        exact hd.symbol h
    | true =>
        rw [if_pos rfl, Pseudocode.typeName?.eq_def]
        split
        · simp [hd.free]
        · simp [hd.free]
        · simp [hd.free]
        · rw [Option.getD_none]
          exact hd.symbol h
  rw [Pseudocode.name]
  split
  · simp [hspelled, hd.free]
  · exact hspelled

omit hd in
/-- A character is written as it is, when it is no newline, or in fixed characters. -/
theorem mem_pseudocodeEscape {quote c e : Char} (hquote : quote ≠ '\n')
    (h : e ∈ pseudocodeEscape quote c) : e = c ∧ c ≠ '\n' ∨ e ∈ 'x' :: escapeCharacters := by
  have hcoded : ∀ code < 0x20, (lowerHex 2 code).all escapeCharacters.contains = true := by decide
  have hdelete : (lowerHex 2 0x7F).all escapeCharacters.contains = true := by decide
  rw [pseudocodeEscape.eq_def] at h
  split at h
  case h_5 hline _ _ =>
    split at h
    · next heq =>
        rcases List.mem_cons.mp h with rfl | hc
        · exact .inr (by decide)
        · exact .inl ⟨List.mem_singleton.mp hc, heq ▸ hquote⟩
    · split at h
      · next hcontrol =>
          have hdigits : (lowerHex 2 c.toNat).all escapeCharacters.contains = true := by
            rcases Bool.or_eq_true _ _ |>.mp hcontrol with hlow | hlast
            · exact hcoded _ (of_decide_eq_true hlow)
            · rw [of_decide_eq_true hlast]
              exact hdelete
          rcases List.mem_cons.mp h with rfl | h
          · exact .inr (by decide)
          · rcases List.mem_cons.mp h with rfl | hdigit
            · exact .inr List.mem_cons_self
            · exact .inr (List.mem_cons_of_mem 'x' (mem_of_all_contains hdigits hdigit))
      · exact .inl ⟨List.mem_singleton.mp h, hline⟩
  all_goals exact .inr (List.mem_cons_of_mem 'x' (mem_of_all_contains (by decide) h))

theorem Splits.string {text : String} (h : ∀ c ∈ text.toList, c ≠ '$') :
    Free d (pseudocodeString text) := by
  have hquote : pseudocodeQuote text.toList = '\'' ∨ pseudocodeQuote text.toList = '"' := by
    rw [pseudocodeQuote]
    split
    · exact .inr rfl
    · exact .inl rfl
  have hall : ('\'' :: 'x' :: escapeCharacters).all (fun c => c != '$' && c != '\n') = true := by
    decide
  have hmarks (c : Char) (hc : c ∈ '\'' :: 'x' :: escapeCharacters) : c ≠ '$' ∧ c ≠ '\n' := by
    simpa using List.all_eq_true.mp hall c hc
  have hmark {c : Char} (hc : c ∈ '\'' :: 'x' :: escapeCharacters) : c ≠ d := by
    rcases hd with rfl | rfl
    · exact (hmarks c hc).1
    · exact (hmarks c hc).2
  have hquoted : pseudocodeQuote text.toList ∈ '\'' :: 'x' :: escapeCharacters := by
    rcases hquote with heq | heq <;> rw [heq] <;> decide
  intro hmem
  rw [pseudocodeString, String.toList_ofList, enclose, List.mem_cons, List.mem_append,
    List.mem_flatMap, List.mem_singleton] at hmem
  rcases hmem with heq | ⟨c, hc, hescape⟩ | heq
  · exact hmark hquoted heq.symm
  · rcases mem_pseudocodeEscape (hmarks _ hquoted).2 hescape with ⟨rfl, hline⟩ | hfixed
    · rcases hd with rfl | rfl
      · exact h _ hc rfl
      · exact hline rfl
    · exact hmark (List.mem_cons_of_mem _ hfixed) rfl
  · exact hmark hquoted heq.symm

theorem Splits.constant {value : Constant} (h : (Leaf.constant value).isTame = true) :
    Free d (Pseudocode.constant value) := by
  cases value with
  | nothing => exact hd.free rfl
  | bool value => cases value <;> exact hd.free rfl
  | int value => exact hd.free_of_isProse (isProse_of_numeral (mem_int value.toInt))
  | float value => exact hd.free_of_isProse (isProse_of_numeral (mem_double value))
  | str text =>
      refine hd.string fun c hc => ?_
      have htame := List.all_eq_true.mp h c hc
      simp only [Bool.and_eq_true, bne_iff_ne] at htame
      exact htame.1

/-! What the forms of pseudocode add to the texts in them. -/

theorem Splits.member (subject : Option String) {object attr : String} (hobject : Free d object)
    (h : attr.toList.all isProse = true) : Free d (Pseudocode.member subject object attr) := by
  rw [Pseudocode.member]
  split
  · split
    · simp [hobject, hd.free]
    · exact hd.free_of_isProse (isProse_sentence h true)
  · split
    · simp [hd.free, hd.free_of_isProse h]
    · simp [hobject, hd.free, hd.free_of_isProse h]

theorem Splits.operator (op : Operator) : Free d (Pseudocode.operator op) := by
  cases op with
  | compare op => cases op <;> simp [Pseudocode.operator, hd.free]
  | binary op => cases op <;> simp [Pseudocode.operator, hd.free]
  | unary op => cases op <;> simp [Pseudocode.operator, hd.free]
  | bool op => cases op <;> simp [Pseudocode.operator, hd.free]

theorem Splits.group {text : String} (h : Free d text) : Free d (Pseudocode.group text) := by
  simp [Pseudocode.group, h, hd.free]

theorem Splits.unary (op : UnaryOp) {text : String} (h : Free d text) :
    Free d (Pseudocode.unary op text) := by
  rw [Pseudocode.unary.eq_def]
  split
  · simp [h, hd.free]
  · simp [h, hd.operator]

theorem Splits.intercalate {separator : String} (hseparator : Free d separator)
    {texts : List String} (h : ∀ text ∈ texts, Free d text) :
    Free d (separator.intercalate texts) := by
  induction texts with
  | nil => exact hd.free rfl
  | cons first rest ih =>
      obtain ⟨hfirst, hrest⟩ := List.forall_mem_cons.mp h
      by_cases hne : rest = []
      · subst hne
        rwa [String.intercalate_singleton]
      · rw [String.intercalate_cons_of_ne_nil hne]
        simp [hfirst, hseparator, ih hrest]

theorem Splits.commaList {texts : List String} (h : ∀ text ∈ texts, Free d text) :
    Free d (commaList texts) :=
  hd.intercalate (hd.free rfl) h

theorem Splits.infixed (op : Operator) {texts : List String} (h : ∀ text ∈ texts, Free d text) :
    Free d (Pseudocode.infixed op texts) := by
  rw [Pseudocode.infixed.eq_def]
  split
  · next numerator denominator =>
      simp only [List.forall_mem_cons] at h
      simp [h.1, h.2.1, hd.free]
  · refine hd.intercalate ?_ h
    simp [hd.free, hd.operator]

theorem Splits.compare {left : String} {rest : List (Operator × String)} (hleft : Free d left)
    (h : ∀ link ∈ rest, Free d link.2) : Free d (Pseudocode.compare left rest) := by
  have hlinks : Free d (String.join (rest.map fun link =>
      " " ++ Pseudocode.operator link.1 ++ " " ++ link.2)) := by
    induction rest with
    | nil => exact hd.free rfl
    | cons link rest ih =>
        obtain ⟨hlink, hrest⟩ := List.forall_mem_cons.mp h
        rw [List.map_cons, String.join_cons]
        simp [hlink, ih hrest, hd.operator, hd.free]
  simp only [Pseudocode.compare, free_append]
  exact ⟨hleft, hlinks⟩

theorem Splits.interval {args : List String} (hargs : ∀ arg ∈ args, Free d arg) {text : String}
    (h : Pseudocode.interval? args = some text) : Free d text := by
  rw [Pseudocode.interval?.eq_def] at h
  split at h <;> cases h <;> simp_all [hd.free]

/-- Dollar signs come from a sentence with arguments alone. -/
theorem Splits.plainCall {func : String} {args : List String} (hfunc : Free d func)
    (hargs : ∀ arg ∈ args, Free d arg)
    (hplain : d = '$' → Pseudocode.isSentence func = true → args = []) :
    Free d (Pseudocode.plainCall func args) := by
  have hlist := hd.commaList hargs
  rw [Pseudocode.plainCall]
  split
  · next hsentence =>
      split
      · exact hfunc
      · next hsome =>
          have hdollar : Free d "$" := by
            rcases hd with rfl | rfl
            · simp [hplain rfl hsentence] at hsome
            · simp [Free]
          simp [Pseudocode.math, hfunc, hlist, hdollar, hd.free]
  · simp [hfunc, hd.group hlist]

theorem Splits.subscript {value index : String} (hvalue : Free d value) (hindex : Free d index) :
    Free d (Target.subscript value index) := by
  simp [Target.subscript, hvalue, hindex, hd.free]

theorem Splits.call {func : String} {args : List String} (hfunc : Free d func)
    (hargs : ∀ arg ∈ args, Free d arg)
    (hplain : d = '$' → Pseudocode.isSentence func = true → args = []) {text : String}
    (h : Pseudocode.call? func args = some text) : Free d text := by
  have hlist := hd.commaList hargs
  rw [Pseudocode.call?.eq_def] at h
  split at h
  · split at h
    · cases h
      exact hargs _ List.mem_cons_self
    · cases h
      exact hd.plainCall hfunc hargs hplain
  · cases h
    simp [hlist, hd.free]
  · cases h
    simp [hlist, hd.free]
  · cases h
    simp [hlist, hd.free]
  · exact hd.interval hargs h
  · cases h
    exact hd.group hlist
  · cases h
    exact hd.plainCall hfunc hargs hplain

end Hooks

/-! ### Expressions -/

/-- A sentence that takes arguments. -/
def Render.RejectedNode.Narrates (subject : Option String) : RejectedNode → Prop
  | .expr (.call func args) =>
    args ≠ [] ∧ ∃ around asType callee, func.render (.pseudocode subject) around asType = .ok callee ∧
      Pseudocode.isSentence ((Target.pseudocode subject).atom func callee) = true
  | _ => False

section Expressions

variable {subject : Option String} {around : Surroundings} {asType : Bool} {d : Char}

theorem Splits.operand (hd : Splits d) (op : Operator) (least : Nat) (expr : Expr) {text : String}
    (h : Free d text) : Free d ((Target.pseudocode subject).operand op least expr text) := by
  rw [Target.operand]
  split
  · exact hd.group h
  · exact h

theorem Splits.atom (hd : Splits d) (expr : Expr) {text : String} (h : Free d text) :
    Free d ((Target.pseudocode subject).atom expr text) := by
  rw [Target.atom]
  split
  · exact hd.group h
  · exact h

/-- The nodes of an expression write no character. -/
def Quiet (subject : Option String) (d : Char) (nodes : List RejectedNode) : Prop :=
  d = '$' → ∀ node ∈ nodes, ¬node.Narrates subject

theorem Quiet.mono {nodes more : List RejectedNode} (h : Quiet subject d more)
    (hsub : nodes ⊆ more) : Quiet subject d nodes := fun heq node hnode => h heq node (hsub hnode)

theorem Expr.visited_subscript (value : Expr) {index : Expr}
    (h : ∀ lower upper step, index ≠ .slice lower upper step) :
    (Expr.subscript value index).visited =
      value.visited ++ index.visited ++ [.expr (.subscript value index)] := by
  rw [Expr.visited]
  exact h

mutual

theorem Expr.render_free (hd : Splits d) : (expr : Expr) → (∀ leaf ∈ expr.leaves, leaf.isTame = true) →
    Quiet subject d expr.visited →
    Promises (Free d) (expr.render (.pseudocode subject) around asType)
  | .constant value, h, _ => by
      rw [Expr.render]
      exact .ok (hd.constant (h (.constant value) List.mem_cons_self))
  | .name ident, h, _ => by
      rw [Expr.render]
      exact .ok (hd.name around (h (.name ident) List.mem_cons_self) asType)
  | .member value attr, h, hquiet => by
      rw [Expr.render]
      obtain ⟨hattr, hvalue⟩ := List.forall_mem_cons.mp h
      have hinner : Quiet subject d value.visited := hquiet.mono (by simp [Expr.visited])
      refine (Expr.render_free hd value hvalue hinner).bind fun text htext => ?_
      exact .ok (hd.member subject (hd.atom value htext) hattr)
  | .unary op operand, h, hquiet => by
      rw [Expr.render]
      have hinner : Quiet subject d operand.visited := hquiet.mono (by simp [Expr.visited])
      refine (Expr.render_free hd operand h hinner).bind fun text htext => ?_
      exact .ok (hd.unary op (hd.operand _ _ operand htext))
  | .binary left op right, h, hquiet => by
      rw [Expr.render]
      obtain ⟨-, hboth⟩ := List.forall_mem_cons.mp h
      obtain ⟨hleft, hright⟩ := List.forall_mem_append.mp hboth
      have hquietLeft : Quiet subject d left.visited := hquiet.mono (by simp [Expr.visited])
      have hquietRight : Quiet subject d right.visited := hquiet.mono (by simp [Expr.visited])
      refine (Expr.render_free hd left hleft hquietLeft).bind fun first hfirst => ?_
      refine (Expr.render_free hd right hright hquietRight).bind fun second hsecond => ?_
      refine .ok (hd.infixed (.binary op) ?_)
      simp [hd.operand _ _ left hfirst, hd.operand _ _ right hsecond]
  | .bool op values, h, hquiet => by
      rw [Expr.render]
      have hinner : Quiet subject d (Expr.visitedAll values) := hquiet.mono (by simp [Expr.visited])
      refine (Expr.renderOperands_free hd (.bool op) _ values h hinner).bind fun texts htexts => ?_
      exact .ok (hd.infixed (.bool op) htexts)
  | .call func args, h, hquiet => by
      obtain ⟨hfunc, hargs⟩ := List.forall_mem_append.mp h
      have hquietFunc : Quiet subject d func.visited := hquiet.mono (by simp [Expr.visited])
      have hquietArgs : Quiet subject d (Expr.visitedAll args) := hquiet.mono (by simp [Expr.visited])
      refine fun text htext => ?_
      obtain ⟨callee, texts, hcallee, htexts, hcall⟩ := Expr.exists_parts_of_call htext
      have hplain : d = '$' →
          Pseudocode.isSentence ((Target.pseudocode subject).atom func callee) = true →
            texts = [] := by
        intro heq hsentence
        cases args with
        | nil =>
            rw [Expr.renderAll] at htexts
            exact (Except.ok.inj htexts).symm
        | cons first rest =>
            have hself := hquiet heq (.expr (.call func (first :: rest))) (by simp [Expr.visited])
            exact absurd ⟨by simp, around, asType, callee, hcallee, hsentence⟩ hself
      exact hd.call (hd.atom func (Expr.render_free hd func hfunc hquietFunc callee hcallee))
        (Expr.renderAll_free hd args hargs hquietArgs texts htexts) hplain hcall
  | .tuple elements, _, _ => by
      rw [Expr.render]
      exact .next fun _ => .error _
  | .list elements, _, _ => by
      rw [Expr.render]
      exact .next fun _ => .error _
  | .set elements, _, _ => by
      rw [Expr.render]
      exact .next fun _ => .error _
  | .dict pairs, _, _ => by
      rw [Expr.render]
      exact .next fun _ => .error _
  | .compare left [] comparators, _, _ => by
      rw [Expr.render]
      exact .error _
  | .compare left (op :: ops) comparators, h, hquiet => by
      rw [Expr.render]
      obtain ⟨hleft, hcomparators⟩ := List.forall_mem_append.mp h
      have hquietLeft : Quiet subject d left.visited := hquiet.mono (by simp [Expr.visited])
      have hquietLinks : Quiet subject d (Expr.visitedLinks (op :: ops) comparators) :=
        hquiet.mono (by simp [Expr.visited])
      refine (Expr.render_free hd left hleft hquietLeft).bind fun text htext => ?_
      refine (Expr.renderLinks_free hd (op :: ops) comparators hcomparators hquietLinks).bind ?_
      intro rest hrest
      exact .ok (hd.compare (hd.operand _ _ left htext) hrest)
  | .conditional test body orelse, _, _ => by
      rw [Expr.render]
      exact .next fun _ => .next fun _ => .next fun _ => .error _
  | .subscript value index, h, hquiet => by
      obtain ⟨hvalue, hindex⟩ := List.forall_mem_append.mp h
      cases index with
      | slice lower upper step =>
          rw [Expr.render]
          exact .next fun _ => .next fun _ => .next fun _ => .next fun _ => .error _
      | _ =>
          rw [Expr.render_subscript value (by simp)]
          rw [Expr.visited_subscript value (by simp)] at hquiet
          refine (Expr.render_free hd value hvalue (hquiet.mono (by simp))).bind fun text htext => ?_
          refine (Expr.render_free hd _ hindex (hquiet.mono (by simp))).bind fun inner hinner => ?_
          exact .ok (hd.subscript (hd.atom value htext) hinner)
  | .slice lower upper step, _, _ => by
      rw [Expr.render]
      exact .error _
  | .starred value, _, _ => by
      rw [Expr.render]
      exact .next fun _ => .error _
  | .matchValue value, h, hquiet => by
      rw [Expr.render]
      exact Expr.render_free hd value h (hquiet.mono (by simp [Expr.visited]))
  | .matchAs none, _, _ => by
      rw [Expr.render]
      exact .error _
  | .matchAs (some binder), _, _ => by
      rw [Expr.render]
      exact .error _

theorem Expr.renderAll_free (hd : Splits d) : (exprs : List Expr) →
    (∀ leaf ∈ Expr.leavesAll exprs, leaf.isTame = true) →
    Quiet subject d (Expr.visitedAll exprs) →
    Promises (fun texts => ∀ text ∈ texts, Free d text)
      (Expr.renderAll (.pseudocode subject) around asType exprs)
  | [], _, _ => by
      rw [Expr.renderAll]
      exact .ok (by simp)
  | expr :: rest, h, hquiet => by
      rw [Expr.renderAll]
      obtain ⟨hexpr, hrest⟩ := List.forall_mem_append.mp h
      have hquietExpr : Quiet subject d expr.visited := hquiet.mono (by simp [Expr.visitedAll])
      have hquietRest : Quiet subject d (Expr.visitedAll rest) :=
        hquiet.mono (by simp [Expr.visitedAll])
      refine (Expr.render_free hd expr hexpr hquietExpr).bind fun text htext => ?_
      refine (Expr.renderAll_free hd rest hrest hquietRest).bind fun texts htexts => ?_
      exact .ok (List.forall_mem_cons.mpr ⟨htext, htexts⟩)

theorem Expr.renderLinks_free (hd : Splits d) : (ops : List CompareOp) → (exprs : List Expr) →
    (∀ leaf ∈ Expr.leavesAll exprs, leaf.isTame = true) →
    Quiet subject d (Expr.visitedLinks ops exprs) →
    Promises (fun links => ∀ link ∈ links, Free d link.2)
      (Expr.renderLinks (.pseudocode subject) around asType ops exprs)
  | op :: ops, expr :: rest, h, hquiet => by
      rw [Expr.renderLinks]
      obtain ⟨hexpr, hrest⟩ := List.forall_mem_append.mp h
      have hquietExpr : Quiet subject d expr.visited := hquiet.mono (by simp [Expr.visitedLinks])
      have hquietRest : Quiet subject d (Expr.visitedLinks ops rest) :=
        hquiet.mono (by simp [Expr.visitedLinks])
      refine (Expr.render_free hd expr hexpr hquietExpr).bind fun text htext => ?_
      refine (Expr.renderLinks_free hd ops rest hrest hquietRest).bind fun links hlinks => ?_
      exact .ok (List.forall_mem_cons.mpr ⟨hd.operand _ _ expr htext, hlinks⟩)
  | [], _, _, _ => by
      simp only [Expr.renderLinks]
      exact .ok (by simp)
  | _ :: _, [], _, _ => by
      simp only [Expr.renderLinks]
      exact .ok (by simp)

theorem Expr.renderOperands_free (hd : Splits d) (op : Operator) (least : Nat) : (exprs : List Expr) →
    (∀ leaf ∈ Expr.leavesAll exprs, leaf.isTame = true) →
    Quiet subject d (Expr.visitedAll exprs) →
    Promises (fun texts => ∀ text ∈ texts, Free d text)
      (Expr.renderOperands (.pseudocode subject) around asType op least exprs)
  | [], _, _ => by
      rw [Expr.renderOperands]
      exact .ok (by simp)
  | expr :: rest, h, hquiet => by
      rw [Expr.renderOperands]
      obtain ⟨hexpr, hrest⟩ := List.forall_mem_append.mp h
      have hquietExpr : Quiet subject d expr.visited := hquiet.mono (by simp [Expr.visitedAll])
      have hquietRest : Quiet subject d (Expr.visitedAll rest) :=
        hquiet.mono (by simp [Expr.visitedAll])
      refine (Expr.render_free hd expr hexpr hquietExpr).bind fun text htext => ?_
      refine (Expr.renderOperands_free hd op least rest hrest hquietRest).bind fun texts htexts => ?_
      exact .ok (List.forall_mem_cons.mpr ⟨hd.operand _ _ expr htext, htexts⟩)

end

end Expressions

end Snippet
