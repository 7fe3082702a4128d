import Mathlib.Data.List.Forall2
import Mathlib.Data.List.TakeWhile

/-!
# Formulas as words and signs

The text of an expression is read as words and signs, at every place the longest sign there is.
`Spells` says that a text is read as given tokens wherever no word runs on into what follows it, and
the lemmas on it follow the ways in which texts are put together.
-/

namespace Snippet.Formula

inductive Token where
  | word (text : String)
  | sign (symbol : String)
deriving DecidableEq, Repr

def isWordStart (c : Char) : Bool := c.isLower

def isWordRest (c : Char) : Bool := c.isLower || c.isDigit || c == '_'

def longestSign? : List String → List Char → Option String
  | [], _ => none
  | sign :: others, text =>
    match longestSign? others text with
    | none => if sign.toList <+: text then some sign else none
    | some best =>
      if sign.toList <+: text ∧ best.toList.length < sign.toList.length then some sign else some best

def tokens? (signs : List String) : List Char → Option (List Token)
  | [] => some []
  | c :: rest =>
    if c = ' ' then tokens? signs rest
    else if isWordStart c then
      (tokens? signs (rest.dropWhile isWordRest)).map
        (.word (String.ofList (c :: rest.takeWhile isWordRest)) :: ·)
    else
      (longestSign? signs (c :: rest)).bind fun sign =>
        (tokens? signs (rest.drop (sign.toList.length - 1))).map (.sign sign :: ·)
termination_by text => text.length
decreasing_by
  · simp
  · exact Nat.lt_succ_of_le (List.dropWhile_sublist _).length_le
  · simp only [List.length_drop, List.length_cons]
    omega

/-- Tokens one after the other with a sign between neighbours. -/
def separated (sign : String) : List (List Token) → List Token
  | [] => []
  | [last] => last
  | first :: second :: rest => first ++ .sign sign :: separated sign (second :: rest)

theorem separated_cons (sign : String) (first : List Token) (others : List (List Token)) :
    separated sign (first :: others) = first ++ others.flatMap (.sign sign :: ·) := by
  induction others generalizing first with
  | nil => simp [separated]
  | cons second rest ih => rw [separated, ih, List.flatMap_cons, List.cons_append]

/-! ### Signs -/

theorem longestSign?_eq_none {signs : List String} {text : List Char}
    (h : longestSign? signs text = none) : ∀ sign ∈ signs, ¬sign.toList <+: text := by
  induction signs with
  | nil => simp
  | cons first others ih =>
      rw [longestSign?] at h
      cases hothers : longestSign? others text with
      | none =>
          have hfirst : ¬first.toList <+: text := by
            intro hstarts
            simp [hothers, hstarts] at h
          intro sign hsign
          rcases List.mem_cons.mp hsign with rfl | hrest
          · exact hfirst
          · exact ih hothers sign hrest
      | some best =>
          simp only [hothers] at h
          split at h <;> cases h

theorem longestSign?_eq_some {signs : List String} {text : List Char} {best : String}
    (h : longestSign? signs text = some best) :
    best ∈ signs ∧ best.toList <+: text ∧
      ∀ sign ∈ signs, sign.toList <+: text → sign.toList.length ≤ best.toList.length := by
  induction signs generalizing best with
  | nil => cases h
  | cons first others ih =>
      rw [longestSign?] at h
      cases hothers : longestSign? others text with
      | none =>
          have hnone := longestSign?_eq_none hothers
          simp only [hothers] at h
          split at h
          · next hstarts =>
              obtain rfl := Option.some.inj h
              refine ⟨List.mem_cons_self, hstarts, fun sign hsign hprefix => ?_⟩
              rcases List.mem_cons.mp hsign with rfl | hrest
              · exact Nat.le_refl _
              · exact absurd hprefix (hnone sign hrest)
          · cases h
      | some longest =>
          obtain ⟨hmem, hprefix, hlongest⟩ := ih hothers
          simp only [hothers] at h
          split at h
          · next hstarts =>
              obtain rfl := Option.some.inj h
              refine ⟨List.mem_cons_self, hstarts.1, fun sign hsign hsignPrefix => ?_⟩
              rcases List.mem_cons.mp hsign with rfl | hrest
              · exact Nat.le_refl _
              · exact Nat.le_trans (hlongest sign hrest hsignPrefix) (Nat.le_of_lt hstarts.2)
          · next hstarts =>
              obtain rfl := Option.some.inj h
              refine ⟨List.mem_cons_of_mem _ hmem, hprefix, fun sign hsign hsignPrefix => ?_⟩
              rcases List.mem_cons.mp hsign with rfl | hrest
              · exact Nat.not_lt.mp fun hlt => hstarts ⟨hsignPrefix, hlt⟩
              · exact hlongest sign hrest hsignPrefix

/-- What is cut into tokens has no characters but those of words, signs and blanks. -/
theorem mem_of_tokens?_eq_some {signs : List String} {text : List Char} {tokens : List Token}
    (hsigns : "" ∉ signs) (h : tokens? signs text = some tokens) :
    ∀ c ∈ text, c = ' ' ∨ isWordRest c = true ∨ ∃ sign ∈ signs, c ∈ sign.toList := by
  fun_induction tokens? signs text generalizing tokens with
  | case1 => simp
  | case2 rest ih => simpa using ih h
  | case3 c rest hblank hstart ih =>
      obtain ⟨others, hothers, -⟩ := Option.map_eq_some_iff.mp h
      have hc : isWordRest c = true := by
        rw [isWordStart] at hstart
        rw [isWordRest, hstart]
        rfl
      intro d hd
      rcases List.mem_cons.mp hd with rfl | hd
      · exact .inr (.inl hc)
      · rw [← List.takeWhile_append_dropWhile (p := isWordRest) (l := rest)] at hd
        rcases List.mem_append.mp hd with htaken | hleft
        · exact .inr (.inl (List.mem_takeWhile_imp htaken))
        · exact ih hothers d hleft
  | case4 c rest hblank hstart ih =>
      obtain ⟨sign, hsign, hsome⟩ := Option.bind_eq_some_iff.mp h
      obtain ⟨others, hothers, -⟩ := Option.map_eq_some_iff.mp hsome
      obtain ⟨hmem, ⟨later, hprefix⟩, -⟩ := longestSign?_eq_some hsign
      cases hchars : sign.toList with
      | nil => exact absurd (String.toList_eq_nil_iff.mp hchars ▸ hmem) hsigns
      | cons first more =>
          rw [hchars, List.cons_append] at hprefix
          obtain ⟨rfl, rfl⟩ := List.cons.inj hprefix
          have hdrop : (more ++ later).drop (sign.toList.length - 1) = later := by simp [hchars]
          have hlater := ih sign hothers
          rw [hdrop] at hlater
          intro d hd
          rcases List.mem_cons.mp hd with rfl | hd
          · exact .inr (.inr ⟨sign, hmem, by simp [hchars]⟩)
          · rcases List.mem_append.mp hd with hmore | hleft
            · exact .inr (.inr ⟨sign, hmem, by simp [hchars, hmore]⟩)
            · exact hlater d hleft

/-- The characters that make a longer sign of a sign. -/
def extensions (signs : List String) (sign : String) : List Char :=
  signs.filterMap fun longer =>
    if sign.toList <+: longer.toList then longer.toList[sign.toList.length]? else none

theorem mem_extensions {signs : List String} {sign longer : String} {c : Char} {more : List Char}
    (hmem : longer ∈ signs) (h : longer.toList = sign.toList ++ c :: more) :
    c ∈ extensions signs sign :=
  List.mem_filterMap.mpr ⟨longer, hmem, by simp [h]⟩

theorem longestSign?_append {signs : List String} {sign : String} {rest : List Char}
    (hmem : sign ∈ signs) (hrest : ∀ c ∈ rest.head?, c ∉ extensions signs sign) :
    longestSign? signs (sign.toList ++ rest) = some sign := by
  cases hlongest : longestSign? signs (sign.toList ++ rest) with
  | none => exact absurd (List.prefix_append _ _) (longestSign?_eq_none hlongest sign hmem)
  | some best =>
      obtain ⟨hbest, hprefix, hle⟩ := longestSign?_eq_some hlongest
      -- The longest sign has this one in front, and what it has more is an extension.
      obtain ⟨more, hmore⟩ : sign.toList <+: best.toList :=
        List.prefix_of_prefix_length_le (List.prefix_append _ _) hprefix
          (hle sign hmem (List.prefix_append _ _))
      cases more with
      | nil => exact congrArg some (String.toList_injective (by simpa using hmore.symm))
      | cons c more =>
          have hrestPrefix : c :: more <+: rest := by
            rwa [← hmore, List.prefix_append_right_inj] at hprefix
          obtain ⟨last, rfl⟩ := hrestPrefix
          exact absurd (mem_extensions hbest hmore.symm) (hrest c rfl)

/-- Whether a sign cannot be taken for a blank or a word. -/
def startsSign (sign : String) : Bool :=
  sign.toList.head?.any fun c => c != ' ' && !isWordStart c

theorem tokens?_sign {signs : List String} {sign : String} {rest : List Char}
    (hmem : sign ∈ signs) (hstart : startsSign sign = true)
    (hrest : ∀ c ∈ rest.head?, c ∉ extensions signs sign) :
    tokens? signs (sign.toList ++ rest) = (tokens? signs rest).map (.sign sign :: ·) := by
  have hlongest := longestSign?_append hmem hrest
  rw [startsSign] at hstart
  cases hsign : sign.toList with
  | nil => simp [hsign] at hstart
  | cons c more =>
      obtain ⟨hblank, hword⟩ : c ≠ ' ' ∧ isWordStart c = false := by simpa [hsign] using hstart
      rw [hsign, List.cons_append] at hlongest
      rw [List.cons_append, tokens?, hlongest]
      simp [hblank, hword, hsign]

theorem tokens?_blank (signs : List String) (rest : List Char) :
    tokens? signs (" ".toList ++ rest) = tokens? signs rest := by
  change tokens? signs (' ' :: rest) = _
  rw [tokens?, if_pos rfl]

/-! ### Texts -/

def opensOperand (c : Char) : Bool := isWordStart c || ['(', '!', '~', '+', '-'].contains c

/-- A text is read as given tokens wherever what follows does not go on with a word. -/
structure Spells (signs : List String) (text : String) (tokens : List Token) : Prop where
  opens : ∃ c more, text.toList = c :: more ∧ opensOperand c = true
  reads : ∀ rest : List Char, (∀ c ∈ rest.head?, isWordRest c = false) →
    tokens? signs (text.toList ++ rest) = (tokens? signs rest).map (tokens ++ ·)

def IsWord (text : String) : Prop :=
  ∃ c more, text.toList = c :: more ∧ isWordStart c = true ∧ more.all isWordRest = true

/-- A sign that nothing makes longer and that ends a word before it. -/
def Punctuates (signs : List String) (sign : String) : Prop :=
  sign ∈ signs ∧ startsSign sign = true ∧ sign.toList.head?.any isWordRest = false ∧
    extensions signs sign = []

/-- A sign that can stand between blanks. -/
def Separates (signs : List String) (sign : String) : Prop :=
  sign ∈ signs ∧ startsSign sign = true ∧ ' ' ∉ extensions signs sign

/-- A sign that can stand right before any operand. -/
def Precedes (signs : List String) (sign : String) : Prop :=
  sign ∈ signs ∧ startsSign sign = true ∧ sign.toList.head?.any opensOperand = true ∧
    (extensions signs sign).any opensOperand = false

instance (signs : List String) (sign : String) : Decidable (Punctuates signs sign) :=
  inferInstanceAs (Decidable (_ ∧ _ ∧ _ ∧ _))

instance (signs : List String) (sign : String) : Decidable (Separates signs sign) :=
  inferInstanceAs (Decidable (_ ∧ _ ∧ _))

instance (signs : List String) (sign : String) : Decidable (Precedes signs sign) :=
  inferInstanceAs (Decidable (_ ∧ _ ∧ _ ∧ _))

/-- A text that stands for a sign wherever it stands, and ends a word before it. -/
structure Splits (signs : List String) (text sign : String) : Prop where
  ends_word : ∃ c more, text.toList = c :: more ∧ isWordRest c = false
  reads : ∀ rest : List Char,
    tokens? signs (text.toList ++ rest) = (tokens? signs rest).map (.sign sign :: ·)

namespace Splits

variable {signs : List String} {sign : String}

theorem of_punctuates (h : Punctuates signs sign) : Splits signs sign sign := by
  obtain ⟨hmem, hstart, hword, hextends⟩ := h
  refine ⟨?_, fun rest => tokens?_sign hmem hstart (by simp [hextends])⟩
  cases hsign : sign.toList with
  | nil => simp [startsSign, hsign] at hstart
  | cons c more => exact ⟨c, more, rfl, by simpa [hsign] using hword⟩

theorem of_separates (h : Separates signs sign) : Splits signs (" " ++ sign ++ " ") sign := by
  obtain ⟨hmem, hstart, hblank⟩ := h
  refine ⟨⟨' ', sign.toList ++ [' '], by simp, by decide⟩, fun rest => ?_⟩
  have hsign : tokens? signs (sign.toList ++ (" ".toList ++ rest)) =
      (tokens? signs (" ".toList ++ rest)).map (.sign sign :: ·) :=
    tokens?_sign hmem hstart (by simpa using hblank)
  rw [String.toList_append, String.toList_append, List.append_assoc, List.append_assoc,
    tokens?_blank, hsign, tokens?_blank]

theorem append_blank {text : String} (h : Splits signs text sign) :
    Splits signs (text ++ " ") sign := by
  obtain ⟨c, more, htext, hword⟩ := h.ends_word
  refine ⟨⟨c, more ++ [' '], by simp [htext], hword⟩, fun rest => ?_⟩
  rw [String.toList_append, List.append_assoc, h.reads, tokens?_blank]

end Splits

namespace Spells

variable {signs : List String} {text first second between sign : String}
  {tokens before after : List Token}

theorem tokens?_eq (h : Spells signs text tokens) : tokens? signs text.toList = some tokens := by
  have hreads := h.reads [] (by simp)
  simpa [tokens?] using hreads

theorem word {ident : String} (h : IsWord ident) : Spells signs ident [.word ident] := by
  obtain ⟨c, more, htext, hstart, hmore⟩ := h
  replace hmore : ∀ d ∈ more, isWordRest d = true := by simpa using hmore
  have hblank : c ≠ ' ' := by
    rintro rfl
    cases hstart
  refine ⟨⟨c, more, htext, by simp [opensOperand, hstart]⟩, fun rest hrest => ?_⟩
  have htake : (more ++ rest).takeWhile isWordRest = more := by
    rw [List.takeWhile_append_of_pos hmore]
    cases rest with
    | nil => simp
    | cons d rest => simp [hrest d rfl]
  have hdrop : (more ++ rest).dropWhile isWordRest = rest := by
    rw [List.dropWhile_append_of_pos hmore]
    cases rest with
    | nil => rfl
    | cons d rest => simp [hrest d rfl]
  have hident : String.ofList (c :: more) = ident := by
    rw [← htext, String.ofList_toList]
  rw [htext, List.cons_append, Formula.tokens?, if_neg hblank, if_pos hstart, htake, hdrop, hident]
  rfl

theorem append (h₁ : Spells signs first before) (hbetween : Splits signs between sign)
    (h₂ : Spells signs second after) :
    Spells signs (first ++ between ++ second) (before ++ .sign sign :: after) := by
  obtain ⟨c, more, hfirst, hopens⟩ := h₁.opens
  obtain ⟨d, others, hsign, hword⟩ := hbetween.ends_word
  refine ⟨⟨c, more ++ (between.toList ++ second.toList), by simp [hfirst], hopens⟩,
    fun rest hrest => ?_⟩
  rw [String.toList_append, String.toList_append, List.append_assoc, List.append_assoc,
    h₁.reads _ (by simp [hsign, hword]), hbetween.reads, h₂.reads rest hrest]
  simp [Function.comp_def]

theorem close (h : Spells signs text tokens) (hclose : Splits signs between sign) :
    Spells signs (text ++ between) (tokens ++ [.sign sign]) := by
  obtain ⟨c, more, htext, hopens⟩ := h.opens
  obtain ⟨d, others, hsign, hword⟩ := hclose.ends_word
  refine ⟨⟨c, more ++ between.toList, by simp [htext], hopens⟩, fun rest hrest => ?_⟩
  rw [String.toList_append, List.append_assoc, h.reads _ (by simp [hsign, hword]), hclose.reads]
  simp [Function.comp_def]

/-- A sign goes before a text whose first character does not make it longer. -/
theorem precede_of_head (h : Spells signs text tokens) (hmem : sign ∈ signs)
    (hstart : startsSign sign = true) (hopens : sign.toList.head?.any opensOperand = true)
    (hhead : ∀ c ∈ text.toList.head?, c ∉ extensions signs sign) :
    Spells signs (sign ++ text) (.sign sign :: tokens) := by
  obtain ⟨c, more, htext, -⟩ := h.opens
  refine ⟨?_, fun rest hstop => ?_⟩
  · cases hsign : sign.toList with
    | nil => simp [hsign] at hopens
    | cons d others =>
        exact ⟨d, others ++ text.toList, by simp [hsign], by simpa [hsign] using hopens⟩
  · have hextends : ∀ d ∈ (text.toList ++ rest).head?, d ∉ extensions signs sign := by
      intro d hd
      exact hhead d (by simpa [htext] using hd)
    rw [String.toList_append, List.append_assoc, tokens?_sign hmem hstart hextends,
      h.reads rest hstop]
    simp [Function.comp_def]

theorem precede (h : Spells signs text tokens) (hsign : Precedes signs sign) :
    Spells signs (sign ++ text) (.sign sign :: tokens) := by
  obtain ⟨hmem, hstart, hopens, hrest⟩ := hsign
  obtain ⟨c, more, htext, hoperand⟩ := h.opens
  refine h.precede_of_head hmem hstart hopens fun d hd hext => ?_
  obtain rfl : c = d := by simpa [htext] using hd
  exact absurd hoperand (by simpa using List.any_eq_false.mp hrest c hext)

theorem intercalate (hbetween : Splits signs between sign) {texts : List String}
    {tokens : List (List Token)} (h : List.Forall₂ (Spells signs) texts tokens) (hne : texts ≠ []) :
    Spells signs (between.intercalate texts) (separated sign tokens) := by
  induction h with
  | nil => exact absurd rfl hne
  | cons hfirst hrest ih =>
      cases hrest with
      | nil => simpa [separated] using hfirst
      | cons hsecond hothers =>
          rw [String.intercalate_cons_of_ne_nil (List.cons_ne_nil _ _)]
          exact hfirst.append hbetween (ih (List.cons_ne_nil _ _))

end Spells

end Snippet.Formula
