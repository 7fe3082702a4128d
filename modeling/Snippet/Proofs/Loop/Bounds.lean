import Snippet.Proofs.Loop.Bond
import Snippet.Proofs.Stops

/-!
# Loop bounds are whole operands

The parts of a counting loop are cut where they were put together, since what stands in them exposes
nothing as loose as the sign they are cut at: a semicolon, an assignment, or the comparison of the
condition. Only the stop can bind more loosely than the sign before it.
-/

namespace Snippet

open Layout (BraceStyle Step)
open Loop
open Render
open Text (dropBlanks isBlank)

namespace Loop

/-- A blank outside all brackets. -/
def blank : Lexeme := .char ' ' true

/-! ### Cutting -/

section Cutting

variable {items left right : List Lexeme} {symbol : String}

theorem splitFirst_append {α : Type} {p : α → Bool} {found : α} {left right : List α}
    (hleft : ∀ item ∈ left, p item = false) (hfound : p found = true) :
    splitFirst p (left ++ found :: right) = some (left, found, right) := by
  induction left with
  | nil => simp [splitFirst, hfound]
  | cons first others ih =>
      obtain ⟨hfirst, hothers⟩ := List.forall_mem_cons.mp hleft
      simp [splitFirst, hfirst, ih hothers]

theorem splitLast_append {α : Type} {p : α → Bool} {found : α} {left right : List α}
    (hright : ∀ item ∈ right, p item = false) (hfound : p found = true) :
    splitLast p (left ++ found :: right) = some (left, found, right) := by
  have hreverse : (left ++ found :: right).reverse = right.reverse ++ found :: left.reverse := by
    simp
  rw [splitLast, hreverse, splitFirst_append (by simpa using hright) hfound]
  simp

theorem leastLevel_le {item : Lexeme} (h : item ∈ items) : leastLevel items ≤ item.level := by
  induction items with
  | nil => cases h
  | cons first others ih =>
      rw [leastLevel, List.foldr_cons]
      rcases List.mem_cons.mp h with rfl | hothers
      · exact Nat.min_le_left _ _
      · exact Nat.le_trans (Nat.min_le_right _ _) (ih hothers)

theorem le_leastLevel {least : Nat} (hprimary : least ≤ Level.primary)
    (h : ∀ item ∈ items, least ≤ item.level) : least ≤ leastLevel items := by
  induction items with
  | nil => exact hprimary
  | cons first others ih =>
      obtain ⟨hfirst, hothers⟩ := List.forall_mem_cons.mp h
      exact Nat.le_min.mpr ⟨hfirst, ih hothers⟩

/-- An expression is cut at a sign that everything else is tighter than. -/
theorem cut?_eq (bound : Nat) (hsign : (Lexeme.sign symbol).level = bound)
    (hbound : bound ≤ Level.shift) (hleft : ∀ item ∈ left, bound < item.level)
    (hright : ∀ item ∈ right, bound < item.level) :
    cut? (left ++ .sign symbol :: right) = some ⟨left, symbol, right⟩ := by
  have hleast : leastLevel (left ++ .sign symbol :: right) = bound := by
    refine Nat.le_antisymm ?_ (le_leastLevel (Nat.le_trans hbound (by decide)) ?_)
    · rw [← hsign]
      exact leastLevel_le (by simp)
    · refine List.forall_mem_append.mpr ⟨fun item hitem => Nat.le_of_lt (hleft item hitem),
        List.forall_mem_cons.mpr ⟨Nat.le_of_eq hsign.symm, fun item hitem => ?_⟩⟩
      exact Nat.le_of_lt (hright item hitem)
  have hother : ∀ {side : List Lexeme}, (∀ item ∈ side, bound < item.level) →
      ∀ item ∈ side, (item.level == bound) = false := by
    intro side hside item hitem
    simpa using Nat.ne_of_gt (hside item hitem)
  rw [cut?, hleast]
  dsimp only
  rw [if_pos hbound]
  split
  · rw [splitFirst_append (hother hleft) (by simp [hsign])]
    simp [Lexeme.text]
  · rw [splitLast_append (hother hright) (by simp [hsign])]
    simp [Lexeme.text]

/-- What holds a looser sign is no increment. -/
theorem incremented?_eq_none (symbol : String) (hmem : .sign symbol ∈ items)
    (h : (Lexeme.sign symbol).level < Level.access) : incremented? items = none := by
  have hkept : Lexeme.sign symbol ∈ items.reverse.dropWhile Lexeme.isBlank :=
    mem_dropWhile (List.mem_reverse.mpr hmem) rfl
  rw [incremented?.eq_def]
  split
  · next place heq =>
      rw [heq] at hkept
      have hplace : Lexeme.sign symbol ∈ place := by simpa using hkept
      refine if_neg fun hall => ?_
      have hlevel := List.all_eq_true.mp hall _ hplace
      rw [decide_eq_true_eq] at hlevel
      omega
  · rfl

theorem incremented?_eq (h : ∀ item ∈ items, Level.access ≤ item.level) :
    incremented? (items ++ [.char '+' true, .char '+' true, blank]) = some items := by
  have hplus : (Lexeme.char '+' true).isBlank = false := by decide
  have hblank : blank.isBlank = true := by decide
  rw [incremented?]
  simpa [List.dropWhile, hplus, hblank] using h

/-! ### What parts write -/

theorem dropBlanks_append {before rest : List Char} (hbefore : ∀ c ∈ before, isBlank c = true)
    (h : ∃ c ∈ rest.head?, isBlank c = false) : dropBlanks (before ++ rest) = rest := by
  obtain ⟨c, hc, hblank⟩ := h
  rw [dropBlanks, List.dropWhile_append_of_pos hbefore]
  cases rest with
  | nil => cases hc
  | cons first others =>
      obtain rfl : first = c := by simpa using hc
      exact List.dropWhile_cons_of_neg (by simp [hblank])

theorem written_eq {text : String} (h : Trimmed text) {before after : List Char}
    (hbefore : ∀ c ∈ before, isBlank c = true) (hafter : ∀ c ∈ after, isBlank c = true)
    (hitems : items.flatMap Lexeme.text = before ++ text.toList ++ after) :
    written items = text := by
  have hfirst : ∃ c ∈ (text.toList ++ after).head?, isBlank c = false := by
    obtain ⟨c, hc, hblank⟩ := h.first
    exact ⟨c, by simp [List.head?_append, Option.mem_def.mp hc], hblank⟩
  have hlast : ∃ c ∈ text.toList.reverse.head?, isBlank c = false := by
    simpa [List.head?_reverse] using h.last
  rw [written, hitems, List.append_assoc, dropBlanks_append hbefore hfirst, List.reverse_append,
    dropBlanks_append (by simpa using hafter) hlast, List.reverse_reverse, String.ofList_toList]

end Cutting

/-! ### Headers -/

section Headers

variable {type target start stop : String} {targetItems startItems stopItems items : List Lexeme}

theorem shows_separator {text : String} (h : lexemes? text.toList = some items)
    (hopens : (text ++ " ").toList.head?.all isHarmless = true) :
    Shows (text ++ " ") (items ++ [blank]) := by
  rw [lexemes?.eq_def] at h
  split at h
  · next last marks hread =>
      obtain ⟨rfl, hsome⟩ := Option.ite_none_right_eq_some.mp h
      obtain rfl := Option.some.inj hsome
      exact .of_blank ((Option.all_eq_true _ _).mp hopens) hread
  · cases h

theorem shows_blank : Shows " " [blank] := .of_isMild (by decide)

theorem shows_semicolon : Shows "; " [.sign ";", blank] := by
  have hsign : lexemes? ";".toList = some [.sign ";"] := by decide +kernel
  exact shows_separator hsign (by decide)

theorem shows_sign_between (symbol : String) (h : symbol ∈ ["=", "<", "+="]) :
    Shows (" " ++ symbol ++ " ") [blank, .sign symbol, blank] := by
  have hsigns : ∀ symbol ∈ ["=", "<", "+="],
      lexemes? (" " ++ symbol).toList = some [blank, .sign symbol] := by decide +kernel
  exact shows_separator (hsigns symbol h) (by simp [isHarmless])

theorem shows_equals : Shows " = " [blank, .sign "=", blank] :=
  shows_sign_between "=" List.mem_cons_self

theorem shows_less : Shows " < " [blank, .sign "<", blank] :=
  shows_sign_between "<" (by simp)

theorem shows_plusEquals : Shows " += " [blank, .sign "+=", blank] :=
  shows_sign_between "+=" (by simp)

theorem betweenParentheses?_eq (inner : String) :
    betweenParentheses? ("for (" ++ inner ++ ")").toList = some inner.toList := by
  have hblank : isBlank ' ' = true := by decide
  have hparenthesis : isBlank '(' = false := by decide
  simp [betweenParentheses?, dropBlanks, List.dropWhile, hblank, hparenthesis]

/-- Where a text stands between two blanks, it is what is written there. -/
theorem written_between {text : String} (h : Trimmed text) (hitems : items.flatMap Lexeme.text =
    text.toList) : written (blank :: (items ++ [blank])) = text := by
  have hblank : ∀ c ∈ [' '], isBlank c = true := List.forall_mem_singleton.mpr (by decide)
  exact written_eq h hblank hblank (by simp [hitems, blank, Lexeme.text])

theorem written_after {text : String} (h : Trimmed text) (hitems : items.flatMap Lexeme.text =
    text.toList) : written (blank :: items) = text := by
  have hblank : ∀ c ∈ [' '], isBlank c = true := List.forall_mem_singleton.mpr (by decide)
  have hnone : ∀ c ∈ ([] : List Char), isBlank c = true := by simp
  exact written_eq h hblank hnone (by simp [hitems, blank, Lexeme.text])

/-- The lexemes of a text that stands on its own. -/
structure Part (least : Nat) (text : String) (items : List Lexeme) : Prop where
  shows_items : Shows text items
  levels : ∀ item ∈ items, least ≤ item.level
  trimmed : Trimmed text

theorem Stands.exists_part {least : Nat} {text : String} (h : Stands least text) :
    ∃ items, Part least text items := by
  obtain ⟨⟨items, hshows, hlevels⟩, htrimmed⟩ := h
  exact ⟨items, hshows, hlevels, htrimmed⟩

theorem Part.flatMap_text {least : Nat} {text : String} (h : Part least text items) :
    items.flatMap Lexeme.text = text.toList := h.shows_items.flatMap_text

theorem Part.lt_level {least : Nat} {text : String} (h : Part least text items) (bound : Nat)
    (hbound : bound < least) : ∀ item ∈ items, bound < item.level :=
  fun item hitem => Nat.lt_of_lt_of_le hbound (h.levels item hitem)

theorem Part.isSemicolon_eq_false {least : Nat} {text : String} (h : Part least text items)
    (hleast : Level.separation < least) : ∀ item ∈ items, isSemicolon item = false := by
  intro item hitem
  have hlevel := h.lt_level _ hleast item hitem
  have hsign : (Lexeme.sign ";").level = Level.separation := by decide
  have hne : item ≠ .sign ";" := by
    rintro rfl
    omega
  simpa [isSemicolon] using hne

theorem declaration?_eq {typeItems : List Lexeme} (htype : Part Level.access type typeItems)
    (hword : ∀ c ∈ type.toList, isBlank c = false) (htarget : Part Level.access target targetItems)
    (hstart : Part Level.conditional start startItems) :
    declaration? (blank :: (typeItems ++ blank :: (targetItems ++ blank :: .sign "=" :: blank ::
      startItems))) = some (type, target, start) := by
  have hblank : Level.assignment < blank.level := by decide
  have htypeLevels := htype.lt_level Level.assignment (by decide)
  have htargetLevels := htarget.lt_level Level.assignment (by decide)
  have hstartLevels := hstart.lt_level Level.assignment (by decide)
  have hcut : cut? ((blank :: ((typeItems ++ blank :: targetItems) ++ [blank])) ++
      .sign "=" :: blank :: startItems) = some ⟨_, "=", blank :: startItems⟩ :=
    cut?_eq Level.assignment (by decide) (by decide)
    (by simpa [or_imp, forall_and, hblank] using ⟨htypeLevels, htargetLevels⟩)
    (by simpa [or_imp, forall_and, hblank] using hstartLevels)
  have hdeclared : Trimmed (type ++ " " ++ target) := htype.trimmed.between " " htarget.trimmed
  have hleft : written (blank :: ((typeItems ++ blank :: targetItems) ++ [blank])) =
      type ++ " " ++ target :=
    written_between hdeclared
      (by simp [htype.flatMap_text, htarget.flatMap_text, blank, Lexeme.text])
  have hstartText := written_after hstart.trimmed hstart.flatMap_text
  have htake : (type.toList ++ ' ' :: target.toList).takeWhile (fun c => !isBlank c) =
      type.toList := by
    rw [List.takeWhile_append_of_pos (by simpa using hword)]
    simp [show isBlank ' ' = true by decide]
  have hfirst : ∀ c ∈ [' '], isBlank c = true := List.forall_mem_singleton.mpr (by decide)
  have hdrop : dropBlanks (' ' :: target.toList) = target.toList :=
    dropBlanks_append hfirst htarget.trimmed.first
  have hne : target ≠ "" := by
    rintro rfl
    obtain ⟨c, hc, -⟩ := htarget.trimmed.first
    cases hc
  have hitems : blank :: (typeItems ++ blank :: (targetItems ++ blank :: .sign "=" :: blank ::
      startItems)) = (blank :: ((typeItems ++ blank :: targetItems) ++ [blank])) ++
        .sign "=" :: blank :: startItems := by simp
  have hchars : (type ++ " " ++ target).toList = type.toList ++ ' ' :: target.toList := by simp
  rw [declaration?, hitems, hcut]
  simp only [Option.bind_eq_bind, Option.bind_some, hleft, hstartText, hchars]
  simp [htake, hdrop, hne]

theorem condition_eq (htarget : Part Level.access target targetItems)
    (hstop : Part Level.shift stop stopItems) :
    cut? (blank :: (targetItems ++ blank :: .sign "<" :: blank :: stopItems)) =
      some ⟨blank :: (targetItems ++ [blank]), "<", blank :: stopItems⟩ := by
  have hblank : Level.relation < blank.level := by decide
  have htargetLevels := htarget.lt_level Level.relation (by decide)
  have hstopLevels := hstop.lt_level Level.relation (by decide)
  have hitems : blank :: (targetItems ++ blank :: .sign "<" :: blank :: stopItems) =
      (blank :: (targetItems ++ [blank])) ++ .sign "<" :: blank :: stopItems := by simp
  rw [hitems]
  exact cut?_eq Level.relation (by decide) (by decide)
    (by simpa [or_imp, forall_and, hblank] using htargetLevels)
    (by simpa [or_imp, forall_and, hblank] using hstopLevels)

theorem update?_increment (htarget : Part Level.access target targetItems) :
    update? (blank :: (targetItems ++ [.char '+' true, .char '+' true, blank])) =
      some (.increment target) := by
  have hblank : Level.access ≤ blank.level := by decide
  have hplace : incremented? ((blank :: targetItems) ++ [.char '+' true, .char '+' true, blank]) =
      some (blank :: targetItems) :=
    incremented?_eq (List.forall_mem_cons.mpr ⟨hblank, htarget.levels⟩)
  rw [List.cons_append] at hplace
  rw [update?, hplace]
  simp [written_after htarget.trimmed htarget.flatMap_text]

theorem update?_assign {step : String} {stepItems : List Lexeme}
    (htarget : Part Level.access target targetItems)
    (hstep : Part Level.conditional step stepItems) :
    update? (blank :: (targetItems ++ blank :: .sign "+=" :: blank :: (stepItems ++ [blank]))) =
      some (.assign target "+=" step) := by
  have hblank : Level.assignment < blank.level := by decide
  have htargetLevels := htarget.lt_level Level.assignment (by decide)
  have hstepLevels := hstep.lt_level Level.assignment (by decide)
  have hnone : incremented? (blank :: (targetItems ++ blank :: .sign "+=" :: blank ::
      (stepItems ++ [blank]))) = none :=
    incremented?_eq_none "+=" (by simp) (by decide)
  have hcut : cut? ((blank :: (targetItems ++ [blank])) ++ .sign "+=" :: blank ::
      (stepItems ++ [blank])) = some ⟨_, "+=", blank :: (stepItems ++ [blank])⟩ :=
    cut?_eq Level.assignment (by decide) (by decide)
      (by simpa [or_imp, forall_and, hblank] using htargetLevels)
      (by simpa [or_imp, forall_and, hblank] using hstepLevels)
  have hitems : blank :: (targetItems ++ blank :: .sign "+=" :: blank :: (stepItems ++ [blank])) =
      (blank :: (targetItems ++ [blank])) ++ .sign "+=" :: blank :: (stepItems ++ [blank]) := by
    simp
  rw [update?, hnone, hitems, hcut]
  simp [written_between htarget.trimmed htarget.flatMap_text,
    written_between hstep.trimmed hstep.flatMap_text]

theorem header?_eq {updating : String} {typeItems updatingItems : List Lexeme} {update : Update}
    (htype : Part Level.access type typeItems) (hword : ∀ c ∈ type.toList, isBlank c = false)
    (htarget : Part Level.access target targetItems)
    (hstart : Part Level.conditional start startItems) (hstop : Part Level.shift stop stopItems)
    (hupdating : Shows updating updatingItems)
    (hupdate : update? (blank :: (updatingItems ++ [blank])) = some update) :
    header? ("for (" ++ (" " ++ type ++ " " ++ target ++ " = " ++ start ++ "; " ++ target ++
      " < " ++ stop ++ "; " ++ updating ++ " ") ++ ")").toList =
        some ⟨type, target, start, target, "<", stop, update⟩ := by
  have hdeclares := ((((shows_blank.append htype.shows_items).append shows_blank).append
    htarget.shows_items).append shows_equals).append hstart.shows_items
  have hcompares := (((hdeclares.append shows_semicolon).append htarget.shows_items).append
    shows_less).append hstop.shows_items
  have hshows := ((hcompares.append shows_semicolon).append hupdating).append shows_blank
  have hblank : isSemicolon blank = false := by decide
  have hequals : isSemicolon (.sign "=") = false := by decide
  have hless : isSemicolon (.sign "<") = false := by decide
  have htypeItems := htype.isSemicolon_eq_false (by decide)
  have htargetItems := htarget.isSemicolon_eq_false (by decide)
  have hstartItems := hstart.isSemicolon_eq_false (by decide)
  have hstopItems := hstop.isSemicolon_eq_false (by decide)
  have hdeclaring : ∀ item ∈ blank :: (typeItems ++ blank :: (targetItems ++ blank :: .sign "=" ::
      blank :: startItems)), isSemicolon item = false := by
    simpa [or_imp, forall_and, hblank, hequals] using ⟨htypeItems, htargetItems, hstartItems⟩
  have hcomparing : ∀ item ∈ blank :: (targetItems ++ blank :: .sign "<" :: blank :: stopItems),
      isSemicolon item = false := by
    simpa [or_imp, forall_and, hblank, hless] using ⟨htargetItems, hstopItems⟩
  rw [header?, betweenParentheses?_eq, Option.bind_eq_bind, Option.bind_some, hshows.lexemes?_eq]
  have hitems : ([blank] ++ typeItems ++ [blank] ++ targetItems ++ [blank, .sign "=", blank] ++
      startItems ++ [.sign ";", blank] ++ targetItems ++ [blank, .sign "<", blank] ++ stopItems ++
      [.sign ";", blank] ++ updatingItems ++ [blank]) =
    (blank :: (typeItems ++ blank :: (targetItems ++ blank :: .sign "=" :: blank :: startItems))) ++
      .sign ";" :: ((blank :: (targetItems ++ blank :: .sign "<" :: blank :: stopItems)) ++
        .sign ";" :: (blank :: (updatingItems ++ [blank]))) := by simp
  have hcut : isSemicolon (.sign ";") = true := by decide
  rw [hitems]
  simp only [Option.bind_eq_bind, Option.bind_some, splitFirst_append hdeclaring hcut,
    splitFirst_append hcomparing hcut, declaration?_eq htype hword htarget hstart,
    condition_eq htarget hstop, hupdate, written_between htarget.trimmed htarget.flatMap_text,
    written_after hstop.trimmed hstop.flatMap_text]
  rfl

end Headers

/-! ### Code without comments -/

theorem code_eq {text : String} (h : StaysCode text) (dialect : Dialect) :
    code dialect text = text.toList := by
  have hspliced : splice text.toList = text.toList := by
    simpa [splice] using h.unspliced []
  have hlexed : dialect.lexed text = text.toList.map (·, false) := by
    have hread := h.keeps
    rw [LexMode.Keeps] at hread
    cases dialect with
    | cpp => simp [Dialect.lexed, Snippet.lexed, hspliced, hread, LexMode.pending]
    | typeScript typed => simp [Dialect.lexed, Snippet.lexed, hread, LexMode.pending]
  rw [code, hlexed, List.filter_map, List.map_map]
  simp [Function.comp_def]

/-! ### Arguments by their roles -/

/-- What `range` is called with: a stop, a start before it, a step after both. -/
structure RangeOf (α : Type) where
  start : Option α
  stop : α
  step : Option α

def RangeOf.ofList? {α : Type} : List α → Option (RangeOf α)
  | [stop] => some ⟨none, stop, none⟩
  | [start, stop] => some ⟨some start, stop, none⟩
  | [start, stop, step] => some ⟨some start, stop, some step⟩
  | _ => none

/-- A counter goes up by one where no step is written. -/
def updateOf (target : String) : Option String → Update
  | none => .increment target
  | some step => .assign target "+=" step

/-- The header of a loop that counts through a range. -/
def headerOf (dialect : Dialect) (target : String) (range : RangeOf String) : Header :=
  ⟨dialect.counterType, target, range.start.getD "0", target, "<", range.stop,
    updateOf target range.step⟩

/-- A text of code that stands at a level on its own. -/
def Spoken (least : Nat) (text : String) : Prop := Stands least text ∧ StaysCode text

theorem Spoken.of_word {word : String} (hne : word.toList ≠ [])
    (h : word.toList.all isNameChar = true) : Spoken Level.access word := by
  refine ⟨stands_word hne h (by decide), staysCode_of_isOrdinary ?_⟩
  exact List.all_eq_true.mpr fun c hc => (spec_of_isNameChar (List.all_eq_true.mp h c hc)).2.2.2

theorem spoken_counterType (dialect : Dialect) : Spoken Level.access dialect.counterType ∧
    ∀ c ∈ dialect.counterType.toList, isBlank c = false := by
  have hwords : dialect.counterType.toList ≠ [] ∧
      dialect.counterType.toList.all isNameChar = true := by
    rcases dialect with _ | ⟨_ | _⟩ <;> decide
  refine ⟨.of_word hwords.1 hwords.2, fun c hc => ?_⟩
  exact (spec_of_isNameChar (List.all_eq_true.mp hwords.2 c hc)).1

/-- The text that updates a counter. -/
def updating (target : String) : Option String → String
  | none => target ++ "++"
  | some step => target ++ " += " ++ step

theorem exists_update {target : String} {step : Option String}
    (htarget : Spoken Level.access target)
    (hstep : ∀ text ∈ step, Spoken Level.conditional text) :
    ∃ items, Shows (updating target step) items ∧
      update? (blank :: (items ++ [blank])) = some (updateOf target step) := by
  obtain ⟨targetItems, hpart⟩ := htarget.1.exists_part
  cases step with
  | none =>
      have hplus : Shows "++" [.char '+' true, .char '+' true] := .of_isMild (by decide)
      refine ⟨_, hpart.shows_items.append hplus, ?_⟩
      rw [updateOf, ← update?_increment hpart]
      simp
  | some text =>
      obtain ⟨stepItems, hstepPart⟩ := (hstep text rfl).1.exists_part
      refine ⟨_, (hpart.shows_items.append shows_plusEquals).append hstepPart.shows_items, ?_⟩
      rw [updateOf, ← update?_assign hpart hstepPart]
      simp

theorem readHeader?_countingLoop (dialect : Dialect) {target : String} (range : RangeOf String)
    (htarget : Spoken Level.access target)
    (hstart : ∀ text ∈ range.start, Spoken Level.conditional text)
    (hstop : Spoken Level.shift range.stop)
    (hstep : ∀ text ∈ range.step, Spoken Level.conditional text) :
    ∃ header, dialect.countingLoop? target ⟨range.start, some range.stop, range.step⟩ =
        some header ∧
      readHeader? dialect header = some (headerOf dialect target range) := by
  obtain ⟨start, stop, step⟩ := range
  have hfilled : Spoken Level.conditional (start.getD "0") := by
    cases start with
    | none =>
        have hzero : Spoken Level.access "0" := .of_word (by decide) (by decide)
        exact ⟨hzero.1.mono (by decide), hzero.2⟩
    | some text => exact hstart text rfl
  obtain ⟨htype, hword⟩ := spoken_counterType dialect
  obtain ⟨typeItems, htypePart⟩ := htype.1.exists_part
  obtain ⟨targetItems, htargetPart⟩ := htarget.1.exists_part
  obtain ⟨startItems, hstartPart⟩ := hfilled.1.exists_part
  obtain ⟨stopItems, hstopPart⟩ := hstop.1.exists_part
  obtain ⟨updateItems, hshows, hupdate⟩ := exists_update htarget hstep
  have hheader := header?_eq htypePart hword htargetPart hstartPart hstopPart hshows hupdate
  have hspelled : (Bounds.mk start (some stop) step).Spelled StaysCode :=
    ⟨fun text htext => (hstart text htext).2, by simpa using hstop.2,
      fun text htext => (hstep text htext).2⟩
  obtain ⟨header, hloop⟩ : ∃ header, dialect.countingLoop? target ⟨start, some stop, step⟩ =
      some header := ⟨_, rfl⟩
  have hstays := codeLaw_staysCode.countingLoop htarget.2 hspelled hloop
  refine ⟨header, hloop, ?_⟩
  rw [readHeader?, code_eq hstays, headerOf, ← hheader]
  obtain rfl := Option.some.inj hloop
  have hliteral : dialect.constant (.int 0) false = "0" := by cases dialect <;> rfl
  cases step <;> simp [Bounds.fillDefaults, updating, hliteral]

end Loop

end Snippet
