import Snippet.Proofs.Latex.Reader

/-!
# What texts and tokens of a formula stand for

`Writes` says which tokens a text is cut into, whatever follows it that does not go on with it, and
`Turns` what tokens stand for once their brackets are read. Both are kept where one part is put
after another. What stands in brackets is read whatever is around the brackets, and they say what it
is.
-/

namespace Snippet.Latex

open Formula

/-! ### Brackets -/

@[simp]
theorem marked_false (closings : List Closing) : marked false closings = closings := by
  cases closings <;> simp [marked]

@[simp]
theorem marked_marked (first second : Bool) (closings : List Closing) :
    marked first (marked second closings) = marked (first || second) closings := by
  cases closings with
  | nil => rfl
  | cons closing others => simp [marked, Bool.or_assoc, Bool.or_comm second]

/-- Tokens stand for others, wherever an operand came before them or not, as `after` says, and what
is after them follows on an operand or not, as `ends` says; `several` says that they hold a comma
outside of their brackets. -/
def Turns (after : Bool) (tokens plain : List Token) (ends several : Bool) : Prop :=
  ∀ rest closings later, plain? ends rest = some (closings, later) →
    plain? after (tokens ++ rest) = some (marked several closings, plain ++ later)

namespace Turns

variable {after between ends several more : Bool} {tokens others plain otherPlain : List Token}

theorem nil (after : Bool) : Turns after [] [] after false := by
  intro rest closings later h
  simpa using h

theorem append (h₁ : Turns after tokens plain between several)
    (h₂ : Turns between others otherPlain ends more) :
    Turns after (tokens ++ others) (plain ++ otherPlain) ends (several || more) := by
  intro rest closings later h
  rw [List.append_assoc, h₁ _ _ _ (h₂ rest closings later h), marked_marked, List.append_assoc]

theorem word (text : String) : Turns after [.word text] [.word text] true false := by
  intro rest closings later h
  have hword : plain? (endsOperand (.word text)) rest = some (closings, later) := h
  rw [List.singleton_append, plain?, hword]
  simp [expansion]

theorem sign {sign : String} (hclosers : closers.contains sign = false)
    (hopeners : openers.contains sign = false) :
    Turns after [.sign sign] (expansion (.sign sign)) (endsOperand (.sign sign)) (sign == ",") := by
  intro rest closings later h
  rw [List.singleton_append, plain?, h]
  simp only [Option.bind_eq_bind, Option.bind_some, hclosers, hopeners]
  rfl

theorem close {sign : String} (hsign : closers.contains sign = true) (after : Bool)
    {rest later : List Token} {closings : List Closing}
    (h : plain? true rest = some (closings, later)) :
    plain? after (.sign sign :: rest) = some (⟨sign, false⟩ :: closings, closed sign :: later) := by
  have hends : endsOperand (.sign sign) = true := by
    rw [endsOperand, hsign, Bool.or_true, Bool.true_or]
  rw [plain?, hends, h]
  simp only [Option.bind_eq_bind, Option.bind_some, hsign, if_true]

/-- What stands in brackets. -/
theorem enclosed {start stop : String} {opened : List Token}
    (h : Turns (endsOperand (.sign start)) tokens plain ends several)
    (hstart : closers.contains start = false ∧ openers.contains start = true)
    (hstop : closers.contains stop = true)
    (hopened : ∀ later, opened? after start ⟨stop, several⟩ (plain ++ closed stop :: later) =
      some opened) :
    Turns after (.sign start :: (tokens ++ [.sign stop])) (opened ++ (plain ++ [closed stop])) true
      false := by
  intro rest closings later hrest
  obtain ⟨hcloser, hopener⟩ := hstart
  have hinner := h _ _ _ (close hstop ends hrest)
  rw [marked, Bool.false_or] at hinner
  have htokens : .sign start :: (tokens ++ [.sign stop]) ++ rest =
      .sign start :: (tokens ++ .sign stop :: rest) := by simp
  rw [htokens, plain?, hinner]
  simp only [Option.bind_eq_bind, Option.bind_some, hcloser, hopener, hopened]
  simp

end Turns

/-! ### Texts -/

/-- A character that can come after an operand: it neither makes a word longer nor turns a closing
brace into another sign. -/
def stops (c : Char) : Bool := !isWordRest c && c != '\x7b'

/-- A text that stands for a sign before everything but a digit, and can come after an operand. -/
structure Marks (text sign : String) : Prop where
  stops_head : text.toList.head?.any stops = true
  reads : ∀ rest : List Char, (∀ c ∈ rest.head?, c ≠ '0') →
    tokens? signs (text.toList ++ rest) = (tokens? signs rest).map (.sign sign :: ·)

/-- A text is cut into tokens, whatever comes after it that can come after an operand. It does not
start with a digit. -/
structure Writes (text : String) (tokens : List Token) : Prop where
  starts : ∃ c ∈ text.toList.head?, c ≠ '0'
  reads : ∀ rest : List Char, (∀ c ∈ rest.head?, stops c = true) →
    tokens? signs (text.toList ++ rest) = (tokens? signs rest).map (tokens ++ ·)

/-- Signs that nothing makes longer and that end a word. -/
def punctuation : List String :=
  symbols ++ closers ++ ["\\left(", "\\lfloor", "\\lceil", "[0,", "\\frac\x7b", "\\vec\x7b",
    "\x7d\x7b", ",", ".", "\\neg", "~", "+", "-"]

theorem ne_zero_of_stops {c : Char} (h : stops c = true) : c ≠ '0' := by
  rintro rfl
  cases h

theorem exists_head_of_any {text : String} {p : Char → Bool} (h : text.toList.head?.any p = true) :
    ∃ c ∈ text.toList.head?, p c = true := by
  cases hhead : text.toList.head? with
  | none => simp [hhead] at h
  | some c => exact ⟨c, rfl, by simpa [hhead] using h⟩

theorem mem_head?_append {text : String} {c : Char} (h : c ∈ text.toList.head?) (rest : List Char) :
    c ∈ (text.toList ++ rest).head? := by
  simp [List.head?_append, Option.mem_def.mp h]

namespace Marks

variable {text sign : String}

theorem of_splits (h : Splits signs text sign) (hstops : text.toList.head?.any stops = true) :
    Marks text sign := ⟨hstops, fun rest _ => h.reads rest⟩

theorem of_mem (sign : String) (h : sign ∈ punctuation) : Marks sign sign := by
  have hsigns : ∀ sign ∈ punctuation, Punctuates signs sign ∧
      sign.toList.head?.any stops = true := by decide +kernel
  obtain ⟨hpunctuates, hstops⟩ := hsigns sign h
  exact of_splits (.of_punctuates hpunctuates) hstops

theorem infixed (h : Separates signs sign) : Marks (" " ++ sign ++ " ") sign := by
  refine of_splits (.of_separates h) ?_
  simp [stops, isWordRest]

theorem append_blank (h : Marks text sign) : Marks (text ++ " ") sign := by
  refine ⟨?_, fun rest _ => ?_⟩
  · obtain ⟨c, hc, hstops⟩ := exists_head_of_any h.stops_head
    rw [String.toList_append, Option.mem_def.mp (mem_head?_append hc _)]
    exact hstops
  · rw [String.toList_append, List.append_assoc, h.reads _ (by simp), tokens?_blank]

theorem blank_append (h : Marks text sign) : Marks (" " ++ text) sign := by
  refine ⟨by simp [stops, isWordRest], fun rest hrest => ?_⟩
  rw [String.toList_append, List.append_assoc, tokens?_blank, h.reads rest hrest]

/-- The bracket of an index or an interval, which only a zero makes longer. -/
theorem bracket : Marks "[" "[" := by
  refine ⟨by decide, fun rest hrest => ?_⟩
  refine tokens?_sign (by decide) (by decide) fun c hc hext => hrest c hc ?_
  have hextensions : extensions signs "[" = ['0'] := by decide +kernel
  simpa [hextensions] using hext

end Marks

namespace Writes

variable {text first second mark sign : String} {tokens before after : List Token}

theorem tokens?_eq (h : Writes text tokens) : tokens? signs text.toList = some tokens := by
  have hreads := h.reads [] (by simp)
  simpa [tokens?] using hreads

theorem of_marks (h : Marks text sign) : Writes text [.sign sign] := by
  obtain ⟨c, hc, hstops⟩ := exists_head_of_any h.stops_head
  refine ⟨⟨c, hc, ne_zero_of_stops hstops⟩, fun rest hrest => ?_⟩
  exact h.reads rest fun d hd => ne_zero_of_stops (hrest d hd)

/-- The brace that closes a fraction or an arrow. -/
theorem brace : Writes "\x7d" [.sign "\x7d"] := by
  refine ⟨⟨'\x7d', rfl, by decide⟩, fun rest hrest => ?_⟩
  refine tokens?_sign (by decide) (by decide) fun c hc hext => ?_
  have hextensions : extensions signs "\x7d" = ['\x7b'] := by decide +kernel
  obtain rfl : c = '\x7b' := by simpa [hextensions] using hext
  cases hrest _ hc

theorem append (h₁ : Writes first before) (h₂ : Writes second after)
    (hstops : second.toList.head?.any stops = true) :
    Writes (first ++ second) (before ++ after) := by
  obtain ⟨c, hc, hzero⟩ := h₁.starts
  obtain ⟨d, hd, hstop⟩ := exists_head_of_any hstops
  refine ⟨⟨c, ?_, hzero⟩, fun rest hrest => ?_⟩
  · rw [String.toList_append]
    exact mem_head?_append hc _
  · have hfollows : ∀ e ∈ (second.toList ++ rest).head?, stops e = true := by
      intro e he
      rw [Option.mem_def.mp (mem_head?_append hd rest), Option.mem_some] at he
      exact he ▸ hstop
    rw [String.toList_append, List.append_assoc, h₁.reads _ hfollows, h₂.reads rest hrest,
      Option.map_map]
    simp [Function.comp_def]

/-- A sign goes before a text. -/
theorem lead (hmarks : Marks mark sign) (h : Writes text tokens) :
    Writes (mark ++ text) (.sign sign :: tokens) := by
  obtain ⟨c, hc, hstops⟩ := exists_head_of_any hmarks.stops_head
  obtain ⟨d, hd, hzero⟩ := h.starts
  refine ⟨⟨c, ?_, ne_zero_of_stops hstops⟩, fun rest hrest => ?_⟩
  · rw [String.toList_append]
    exact mem_head?_append hc _
  · have hfollows : ∀ e ∈ (text.toList ++ rest).head?, e ≠ '0' := by
      intro e he
      rw [Option.mem_def.mp (mem_head?_append hd rest), Option.mem_some] at he
      exact he ▸ hzero
    rw [String.toList_append, List.append_assoc, hmarks.reads _ hfollows, h.reads rest hrest,
      Option.map_map]
    simp [Function.comp_def]

theorem stops_append (hstops : first.toList.head?.any stops = true) (second : String) :
    (first ++ second).toList.head?.any stops = true := by
  obtain ⟨c, hc, hstop⟩ := exists_head_of_any hstops
  rw [String.toList_append, Option.mem_def.mp (mem_head?_append hc _)]
  exact hstop

theorem join (h₁ : Writes first before) (hmarks : Marks mark sign)
    (h₂ : Writes second after) :
    Writes (first ++ mark ++ second) (before ++ .sign sign :: after) := by
  rw [String.append_assoc]
  exact h₁.append (lead hmarks h₂) (stops_append hmarks.stops_head second)

theorem close (h : Writes text tokens) (hmarks : Marks mark sign) :
    Writes (text ++ mark) (tokens ++ [.sign sign]) :=
  h.append (of_marks hmarks) hmarks.stops_head

theorem intercalate (hmarks : Marks mark sign) {texts : List String}
    {tokens : List (List Token)} (h : List.Forall₂ Writes texts tokens) (hne : texts ≠ []) :
    Writes (mark.intercalate texts) (separated sign tokens) := by
  induction h with
  | nil => exact absurd rfl hne
  | cons hfirst hrest ih =>
      cases hrest with
      | nil => simpa [separated] using hfirst
      | cons hsecond hothers =>
          rw [String.intercalate_cons_of_ne_nil (List.cons_ne_nil _ _)]
          exact hfirst.join hmarks (ih (List.cons_ne_nil _ _))

theorem word {ident : String} (h : IsWord ident) : Writes ident [.word ident] := by
  obtain ⟨c, more, htext, hstart, hmore⟩ := h
  refine ⟨⟨c, by simp [htext], ?_⟩, fun rest hrest => ?_⟩
  · rintro rfl
    cases hstart
  · refine (Spells.word ⟨c, more, htext, hstart, hmore⟩).reads rest fun d hd => ?_
    have hstops := hrest d hd
    rw [stops, Bool.and_eq_true] at hstops
    simpa using hstops.1

end Writes

end Snippet.Latex
