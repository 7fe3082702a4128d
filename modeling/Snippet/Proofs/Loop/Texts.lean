import Mathlib
import Snippet.Proofs.Loop.Lexemes
import Snippet.Proofs.Outline.Characters

/-!
# Texts that stand on their own

A text exposes a level when no operator that it leaves outside brackets is looser, and it stands at
that level when it has no blanks around it either. Names, constants and what is in brackets stand,
and texts that stand can be put one after another, with or without a sign between them.
-/

namespace Snippet.Loop

open Formula (extensions longestSign? longestSign?_append)
open Number (Double)
open Text (isBlank jsonString)

/-- What a text leaves outside brackets binds at a level at least. -/
def Exposes (least : Nat) (text : String) : Prop :=
  ∃ items, Shows text items ∧ ∀ item ∈ items, least ≤ item.level

/-- The first and the last character of a text are not blank. -/
structure Trimmed (text : String) : Prop where
  first : ∃ c ∈ text.toList.head?, isBlank c = false
  last : ∃ c ∈ text.toList.getLast?, isBlank c = false

structure Stands (least : Nat) (text : String) : Prop where
  exposes : Exposes least text
  trimmed : Trimmed text

section Texts

variable {least looser : Nat} {text first second : String}

theorem Exposes.mono (h : Exposes least text) (hle : looser ≤ least) : Exposes looser text := by
  obtain ⟨items, hshows, hlevels⟩ := h
  exact ⟨items, hshows, fun item hitem => Nat.le_trans hle (hlevels item hitem)⟩

theorem Exposes.append (h₁ : Exposes least first) (h₂ : Exposes least second) :
    Exposes least (first ++ second) := by
  obtain ⟨before, hfirst, hbefore⟩ := h₁
  obtain ⟨after, hsecond, hafter⟩ := h₂
  exact ⟨before ++ after, hfirst.append hsecond, List.forall_mem_append.mpr ⟨hbefore, hafter⟩⟩

theorem Stands.mono (h : Stands least text) (hle : looser ≤ least) : Stands looser text :=
  ⟨h.exposes.mono hle, h.trimmed⟩

theorem Trimmed.append (h₁ : Trimmed first) (h₂ : Trimmed second) : Trimmed (first ++ second) := by
  obtain ⟨c, hc, hblank⟩ := h₁.first
  obtain ⟨d, hd, hlast⟩ := h₂.last
  refine ⟨⟨c, ?_, hblank⟩, ⟨d, ?_, hlast⟩⟩
  · simp [List.head?_append, Option.mem_def.mp hc]
  · simp [List.getLast?_append, Option.mem_def.mp hd]

/-- What stands between two texts does not show at their ends. -/
theorem Trimmed.between (h₁ : Trimmed first) (middle : String) (h₂ : Trimmed second) :
    Trimmed (first ++ middle ++ second) := by
  obtain ⟨c, hc, hblank⟩ := h₁.first
  obtain ⟨d, hd, hlast⟩ := h₂.last
  refine ⟨⟨c, ?_, hblank⟩, ⟨d, ?_, hlast⟩⟩
  · simp [List.head?_append, Option.mem_def.mp hc]
  · simp [List.getLast?_append, Option.mem_def.mp hd]

theorem trimmed_of_forall (hne : text.toList ≠ []) (h : ∀ c ∈ text.toList, isBlank c = false) :
    Trimmed text := by
  have hfirst : text.toList.head? = some (text.toList.head hne) := List.head?_eq_some_head hne
  have hlast : text.toList.getLast? = some (text.toList.getLast hne) :=
    List.getLast?_eq_some_getLast hne
  exact ⟨⟨_, hfirst, h _ (List.head_mem hne)⟩, ⟨_, hlast, h _ (List.getLast_mem hne)⟩⟩

theorem Stands.append (h₁ : Stands least first) (h₂ : Stands least second) :
    Stands least (first ++ second) :=
  ⟨h₁.exposes.append h₂.exposes, h₁.trimmed.append h₂.trimmed⟩

theorem Stands.between {middle : String} (h₁ : Stands least first) (hmiddle : Exposes least middle)
    (h₂ : Stands least second) : Stands least (first ++ middle ++ second) :=
  ⟨(h₁.exposes.append hmiddle).append h₂.exposes, h₁.trimmed.between middle h₂.trimmed⟩

/-! ### Plain and hidden texts -/

theorem Lexeme.le_level_char (h : least ≤ Level.arithmetic) (c : Char) (exposed : Bool) :
    least ≤ (Lexeme.char c exposed).level := by
  rw [Lexeme.level]
  split
  · exact h
  · exact Nat.le_trans h (by decide)

theorem exposes_of_isMild (h : text.toList.all isMild = true) : Exposes Level.arithmetic text := by
  refine ⟨_, .of_isMild h, fun item hitem => ?_⟩
  obtain ⟨c, -, rfl⟩ := List.mem_map.mp hitem
  exact Lexeme.le_level_char (Nat.le_refl _) c true

/-- A text of mild characters without an operator among them. -/
theorem exposes_primary (h : text.toList.all (fun c => isMild c && !isArithmetic c) = true) :
    Exposes Level.primary text := by
  have hall := List.all_eq_true.mp h
  refine ⟨_, .of_isMild (List.all_eq_true.mpr fun c hc => ?_), fun item hitem => ?_⟩
  · exact (Bool.and_eq_true_iff.mp (hall c hc)).1
  · obtain ⟨c, hc, rfl⟩ := List.mem_map.mp hitem
    have harithmetic : isArithmetic c = false := by
      simpa using (Bool.and_eq_true_iff.mp (hall c hc)).2
    simp [Lexeme.level, harithmetic]

theorem exposes_of_hidden (hopens : ∀ c ∈ text.toList.head?, isHarmless c = true)
    (h : Hidden text) : Exposes Level.primary text := by
  refine ⟨_, .of_hidden hopens h, fun item hitem => ?_⟩
  obtain ⟨c, -, rfl⟩ := List.mem_map.mp hitem
  exact Nat.le_refl _

/-- Whether a text that a blank ends exposes nothing looser than a level. -/
def separates (least : Nat) (text : String) : Bool :=
  match Place.top.readAll? text.toList with
  | some (last, marks) =>
    last = Place.top && (lexemes marks).all (fun item => least ≤ item.level) &&
      (text ++ " ").toList.head?.all isHarmless
  | none => false

theorem exposes_of_separates (hle : least ≤ Level.primary) (h : separates least text = true) :
    Exposes least (text ++ " ") := by
  rw [separates] at h
  cases hread : Place.top.readAll? text.toList with
  | none => simp [hread] at h
  | some read =>
      obtain ⟨last, marks⟩ := read
      rw [hread] at h
      simp only [Bool.and_eq_true, decide_eq_true_eq, List.all_eq_true] at h
      obtain ⟨⟨rfl, hlevels⟩, hopens⟩ := h
      refine ⟨_, .of_blank (fun c hc => ?_) hread, fun item hitem => ?_⟩
      · rwa [Option.mem_def.mp hc] at hopens
      · rcases List.mem_append.mp hitem with hitem | hitem
        · exact hlevels item hitem
        · obtain rfl := List.mem_singleton.mp hitem
          exact hle

theorem exposedFront_append (chars : List Char) (rest : List (Char × Bool)) :
    exposedFront (chars.map (·, true) ++ rest) = chars ++ exposedFront rest := by
  induction chars with
  | nil => rfl
  | cons c others ih =>
      rw [List.map_cons, List.cons_append, exposedFront_cons, ih, List.cons_append]

/-- A sign that nothing makes longer. -/
theorem exposes_sign {symbol : String} (hmem : symbol ∈ signs)
    (hextends : extensions signs symbol = []) (hkeeps : Place.top.Keeps true symbol.toList)
    (hopens : symbol.toList.head?.all isHarmless = true)
    (hlevel : least ≤ (Lexeme.sign symbol).level) : Exposes least symbol := by
  have hhead := (Option.all_eq_true _ _).mp hopens
  refine ⟨[.sign symbol], ⟨hhead, _, hkeeps, fun rest _ => ?_⟩, by simpa using hlevel⟩
  have hlongest : longestSign? signs (exposedFront (symbol.toList.map (·, true) ++ rest)) =
      some symbol := by
    rw [exposedFront_append]
    exact longestSign?_append hmem (by simp [hextends])
  cases hchars : symbol.toList with
  | nil =>
      have hempty := List.all_eq_true.mp signs_of_isMild symbol hmem
      simp [hchars] at hempty
  | cons c more =>
      rw [hchars, List.map_cons, List.cons_append] at hlongest
      rw [List.map_cons, List.cons_append, lexemes_of_longest hlongest, hchars]
      simp

theorem exposes_access : Exposes Level.access "->" ∧ Exposes Level.access "::" :=
  ⟨exposes_sign (by decide) (by decide) rfl (by decide) (by decide),
    exposes_sign (by decide) (by decide) rfl (by decide) (by decide)⟩

end Texts

/-! ### Leaves -/

/-- A character of a name: none that is blank, a bracket, a quote or part of an operator. -/
def isNameChar (c : Char) : Bool :=
  !isBlank c && !("\"\\()[]\x7b\x7d+-*/%!~=<>?:;,|^&".toList.contains c)

theorem spec_of_isNameChar {c : Char} (h : isNameChar c = true) :
    isBlank c = false ∧ isMild c = true ∧ isArithmetic c = false ∧ isOrdinary c = true := by
  simp_all [isNameChar, isMild, isInert, isBracket, isArithmetic, isOrdinary]

theorem isNameChar_of_isUpper {c : Char} (h : c.isUpper = true) : isNameChar c = true := by
  have hblank : ∀ code ≤ 90, 65 ≤ code → isBlank (Char.ofNat code) = false := by decide
  have hrange : 65 ≤ c.toNat ∧ c.toNat ≤ 90 := by
    simpa [Char.isUpper, UInt32.le_iff_toNat_le] using h
  have hnone : isBlank c = false := by
    rw [← Char.ofNat_toNat c]
    exact hblank c.toNat hrange.2 hrange.1
  rw [isNameChar, hnone, contains_eq_false_of_isUpper (by decide) h]
  rfl

/-- A name that is spelled as one, and something of it is left without the underscores. -/
def IsName (ident : String) : Prop :=
  ident.toList.all isNameChar = true ∧ ident.toList.any (· != '_') = true

instance (ident : String) : Decidable (IsName ident) := inferInstanceAs (Decidable (_ ∧ _))

theorem stands_of_isNameChar {text : String} (hne : text.toList ≠ [])
    (h : text.toList.all isNameChar = true) : Stands Level.primary text := by
  have hchars := List.all_eq_true.mp h
  refine ⟨exposes_primary (List.all_eq_true.mpr fun c hc => ?_),
    trimmed_of_forall hne fun c hc => ?_⟩
  · obtain ⟨-, hmild, harithmetic, -⟩ := spec_of_isNameChar (hchars c hc)
    rw [hmild, harithmetic]
    rfl
  · exact (spec_of_isNameChar (hchars c hc)).1

/-- What is not dropped itself stays. -/
theorem mem_dropWhile {α : Type} {p : α → Bool} {items : List α} {a : α} (ha : a ∈ items)
    (h : p a = false) : a ∈ items.dropWhile p := by
  induction items with
  | nil => cases ha
  | cons first rest ih =>
      rw [List.dropWhile_cons]
      split
      · next hfirst =>
          rcases List.mem_cons.mp ha with rfl | hrest
          · simp [h] at hfirst
          · exact ih hrest
      · exact ha

theorem IsName.stands_styledName {ident : String} (h : IsName ident) (dialect : Dialect) :
    Stands Level.primary (dialect.styledName ident) := by
  obtain ⟨hchars, hany⟩ := h
  refine stands_of_isNameChar ?_ ?_
  · obtain ⟨c, hc, hunderscore⟩ := List.any_eq_true.mp hany
    have hne : (Text.trimUnderscores ident).toList ≠ [] := by
      refine List.ne_nil_of_mem (a := c) ?_
      rw [Text.trimUnderscores, String.toList_ofList, List.mem_reverse]
      refine mem_dropWhile (List.mem_reverse.mpr ?_) (by simpa using hunderscore)
      exact mem_dropWhile hc (by simpa using hunderscore)
    rw [Dialect.styledName.eq_def]
    dsimp only
    split
    · simp [String.toList_append, hne]
    · cases dialect with
      | cpp => exact hne
      | typeScript typed => simpa [Text.lowerCamel] using Text.lowerCamelChars_ne_nil hne
  · exact List.all_eq_true.mpr <|
      forall_mem_styledName (by decide) (fun _ => isNameChar_of_isUpper) dialect
        (List.all_eq_true.mp hchars)

theorem IsName.stands {ident : String} (h : IsName ident) : Stands Level.primary ident := by
  obtain ⟨hchars, hany⟩ := h
  obtain ⟨c, hc, -⟩ := List.any_eq_true.mp hany
  exact stands_of_isNameChar (List.ne_nil_of_mem hc) hchars

/-- Names are spelled as such, and the floor division, which C-family languages read as the start of
a comment, is not among the operators. -/
def LeafIsClear : Leaf → Prop
  | .name ident => IsName ident
  | .operator op => op ≠ .floorDiv
  | _ => True

instance : DecidablePred LeafIsClear
  | .name ident => inferInstanceAs (Decidable (IsName ident))
  | .operator op => inferInstanceAs (Decidable (op ≠ .floorDiv))
  | .constant _ | .note _ => isTrue trivial

theorem LeafIsClear.fits_staysCode {leaf : Leaf} (h : LeafIsClear leaf) (dialect : Dialect) :
    leaf.Fits dialect StaysCode fun _ => True := by
  cases leaf with
  | name ident =>
      refine dialect.spellsName_staysCode (List.all_eq_true.mpr fun c hc => ?_)
      exact (spec_of_isNameChar (List.all_eq_true.mp h.1 c hc)).2.2.2
  | constant value => exact dialect.staysCode_constant value
  | note value => exact ⟨fun _ _ => trivial, fun _ _ => trivial⟩
  | operator op => exact dialect.staysCode_operator h

theorem isInert_of_isMild {c : Char} (h : isMild c = true) : isInert c = true :=
  (Bool.and_eq_true_iff.mp h).1

theorem isMild_of_mem_numeralCharacters {c : Char} (h : c ∈ numeralCharacters) :
    isMild c = true ∧ isBlank c = false := by
  have hall : numeralCharacters.all (fun d => isMild d && !isBlank d) = true := by decide
  simpa using List.all_eq_true.mp hall c h

theorem stands_numeral {text : String} (hne : text.toList ≠ [])
    (h : ∀ c ∈ text.toList, c ∈ numeralCharacters) : Stands Level.arithmetic text := by
  refine ⟨exposes_of_isMild (List.all_eq_true.mpr fun c hc => ?_),
    trimmed_of_forall hne fun c hc => ?_⟩
  · exact (isMild_of_mem_numeralCharacters (h c hc)).1
  · exact (isMild_of_mem_numeralCharacters (h c hc)).2

theorem toList_toString_int_ne_nil (value : Int) : (toString value).toList ≠ [] := by
  cases value with
  | ofNat n =>
      rw [show toString (Int.ofNat n) = Nat.repr n from rfl, Nat.toList_repr]
      exact Nat.toDigits_ne_nil
  | negSucc n =>
      rw [show toString (Int.negSucc n) = "-" ++ Nat.repr (n + 1) from rfl, String.toList_append]
      exact List.cons_ne_nil _ _

theorem toList_double_ne_nil (value : Double) : (value.text .code).toList ≠ [] := by
  rw [Double.text]
  split
  · decide
  · split <;> decide
  · next negative mantissa exponent _ =>
      rw [String.toList_ofList]
      split
      · exact List.cons_ne_nil _ _
      · split
        · exact List.cons_ne_nil _ _
        · rw [Number.Decimal.text]
          split
          · rw [Number.positional]
            split <;> simp
          · simp [Number.exponential]

theorem trimmed_jsonString (text : String) : Trimmed (jsonString text) := by
  rw [jsonString, Text.enclose]
  refine ⟨⟨'"', by simp, by decide⟩, ⟨'"', ?_, by decide⟩⟩
  rw [String.toList_ofList, ← List.cons_append, List.getLast?_concat]
  rfl

theorem stands_constant (dialect : Dialect) (value : Constant) (asType : Bool) :
    Stands Level.arithmetic (dialect.constant value asType) := by
  cases value with
  | nothing =>
      refine (stands_of_isNameChar ?_ ?_).mono (by decide)
      all_goals rcases dialect with _ | ⟨_ | _⟩ <;> cases asType <;> decide
  | bool value =>
      show Stands Level.arithmetic (if value then "true" else "false")
      refine (stands_of_isNameChar ?_ ?_).mono (by decide)
      all_goals cases value <;> decide
  | int value => exact stands_numeral (toList_toString_int_ne_nil _) (mem_int value.toInt)
  | float value => exact stands_numeral (toList_double_ne_nil value) (mem_double value)
  | str text =>
      have hopens : ∀ c ∈ (jsonString text).toList.head?, isHarmless c = true := by
        simp [jsonString, Text.enclose, isHarmless]
      exact ⟨(exposes_of_hidden hopens (hidden_jsonString text)).mono (by decide),
        trimmed_jsonString text⟩

theorem sealed_constant (dialect : Dialect) (value : Constant) (asType : Bool) :
    Sealed (dialect.constant value asType) := by
  have hnumeral : ∀ {text : String}, (∀ c ∈ text.toList, c ∈ numeralCharacters) → Sealed text :=
    fun h => sealed_of_isInert <| List.all_eq_true.mpr fun c hc =>
      isInert_of_isMild (isMild_of_mem_numeralCharacters (h c hc)).1
  cases value with
  | nothing =>
      refine sealed_of_isInert ?_
      rcases dialect with _ | ⟨_ | _⟩ <;> cases asType <;> decide
  | bool value =>
      show Sealed (if value then "true" else "false")
      exact sealed_of_isInert (by cases value <;> decide)
  | int value => exact hnumeral (mem_int value.toInt)
  | float value => exact hnumeral (mem_double value)
  | str text => exact (hidden_jsonString text).sealed

/-- A name with neither brackets nor quotes in it. -/
def LeafIsBare : Leaf → Prop
  | .name ident => ident.toList.all isInert = true
  | _ => True

instance : DecidablePred LeafIsBare
  | .name ident => inferInstanceAs (Decidable (ident.toList.all isInert = true))
  | .constant _ | .note _ | .operator _ => isTrue trivial

theorem isInert_of_isNameChar {c : Char} (h : isNameChar c = true) : isInert c = true :=
  isInert_of_isMild (spec_of_isNameChar h).2.1

theorem all_isInert_styledName {ident : String} (h : ident.toList.all isInert = true)
    (dialect : Dialect) : (dialect.styledName ident).toList.all isInert = true :=
  List.all_eq_true.mpr <| forall_mem_styledName (by decide)
    (fun _ hupper => isInert_of_isNameChar (isNameChar_of_isUpper hupper)) dialect
    (List.all_eq_true.mp h)

theorem LeafIsBare.fits_sealed {leaf : Leaf} (h : LeafIsBare leaf) (dialect : Dialect) :
    leaf.Fits dialect Sealed fun _ => True := by
  cases leaf with
  | name ident => exact ⟨sealed_of_isInert h, sealed_of_isInert (all_isInert_styledName h dialect)⟩
  | constant value => exact sealed_constant dialect value
  | note value => exact ⟨fun _ _ => trivial, fun _ _ => trivial⟩
  | operator op =>
      have hspelling : dialect.operator (.binary op) = (Operator.binary op).curlySpelling :=
        dialect.operator_eq_curlySpelling (by simp) (by simp)
      have hop : (Operator.binary op).curlySpelling.toList.all isInert = true := by
        cases op <;> decide
      have hsides : isInert ' ' = true ∧ isInert '=' = true := by decide
      have hspelled : Sealed (dialect.operator (.binary op)) := sealed_of_isInert (hspelling ▸ hop)
      have hblank : Sealed " " := sealed_of_isInert (by simp [hsides])
      have hequals : Sealed "= " := sealed_of_isInert (by simp [hsides])
      have hfront := codeLaw_sealed.append hblank hspelled
      exact ⟨codeLaw_sealed.append hfront hblank, codeLaw_sealed.append hfront hequals⟩

theorem LeafIsClear.isBare {leaf : Leaf} (h : LeafIsClear leaf) : LeafIsBare leaf := by
  cases leaf with
  | name ident =>
      exact List.all_eq_true.mpr fun c hc => isInert_of_isNameChar (List.all_eq_true.mp h.1 c hc)
  | _ => trivial

theorem LeafIsClear.fits_sealed {leaf : Leaf} (h : LeafIsClear leaf) (dialect : Dialect) :
    leaf.Fits dialect Sealed fun _ => True :=
  h.isBare.fits_sealed dialect

end Snippet.Loop
