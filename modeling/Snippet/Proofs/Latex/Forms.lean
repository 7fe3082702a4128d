import Snippet.Proofs.Latex.Brackets

/-!
# The forms of formulas

`Sets` says that a text is read as an expression at the levels from one on, wherever it stands in a
formula. The lemmas on it are the ways in which a formula is put together: names, brackets, what
comes after a value, and operators between operands.
-/

namespace Snippet

open Formula

/-- The tokens of a sign and of the operand after it. -/
def Formula.linked (link : String × List Token) : List Token := .sign link.1 :: link.2

namespace Formula.Reads

variable {all tighter : List Level} {tokens rest : List Token} {expr : Expr}

/-- What is read at a tight level is read at a looser one. -/
theorem antitone (hdistinct : Distinct all) {loose tight : Nat}
    (h : Reads all (all.drop tight) tokens expr) (hle : loose ≤ tight)
    (htight : tight ≤ all.length) : Reads all (all.drop loose) tokens expr := by
  induction tight with
  | zero =>
      obtain rfl := Nat.le_zero.mp hle
      exact h
  | succ tight ih =>
      by_cases heq : loose = tight + 1
      · exact heq ▸ h
      · have hlevels := hdistinct.drop tight
        have hdrop : all.drop tight = all[tight] :: all.drop (tight + 1) :=
          List.drop_eq_getElem_cons htight
        rw [hdrop] at hlevels
        exact ih (hdrop ▸ h.climb hlevels) (by omega) (Nat.le_of_succ_le htight)

theorem readLinks_flatMap {ops : List (String × CompareOp)} {links : List (String × List Token)}
    {values : List (CompareOp × Expr)}
    (hsigns : ∀ sign ∈ ops.map Prod.fst, sign ∉ followers tighter)
    (hlinks : List.Forall₂ (fun link value => ops.lookup link.1 = some value.1 ∧
      Reads all tighter link.2 value.2) links values)
    (hrest : Clear (ops.map Prod.fst) rest) (hfollow : Clear (followers tighter) rest) :
    plain (readLinks all ops tighter (links.flatMap linked ++ rest)) = some (values, rest) := by
  induction hlinks with
  | nil => exact congrArg plain (readLinks_of_clear hrest)
  | @cons link value others values hlink hothers ih =>
      have hnext : Clear (followers tighter) (others.flatMap linked ++ rest) := by
        cases hothers with
        | nil => exact hfollow
        | cons hsecond _ => exact clear_cons (hsigns _ (mem_of_lookup hsecond.1)) _
      rw [List.flatMap_cons, List.append_assoc, linked, List.cons_append,
        readLinks_cons hlink.1 (hlink.2.whole hnext), ih]
      rfl

theorem chain {ops : List (String × CompareOp)} {links : List (String × List Token)}
    {values : List (CompareOp × Expr)} (hdistinct : Distinct (.chain ops :: tighter))
    (h : Reads all tighter tokens expr)
    (hlinks : List.Forall₂ (fun link value => ops.lookup link.1 = some value.1 ∧
      Reads all tighter link.2 value.2) links values) (hne : values ≠ []) :
    Reads all (.chain ops :: tighter) (tokens ++ links.flatMap linked)
      (.compare expr (values.map Prod.fst) (values.map Prod.snd)) := by
  obtain ⟨head, more, hhead, hstarts⟩ := h.starts
  refine ⟨⟨head, _, by rw [hhead]; rfl, fun found hfound => ?_⟩, fun rest hrest => ?_⟩
  · exact List.mem_append_right _ (hstarts found hfound)
  · obtain ⟨hops, htighter⟩ := Clear.of_append hrest
    have hnext : Clear (followers tighter) (links.flatMap linked ++ rest) := by
      cases hlinks with
      | nil => exact absurd rfl hne
      | cons hfirst _ => exact clear_cons (hdistinct.1 _ (mem_of_lookup hfirst.1)) _
    obtain ⟨fits, hread⟩ := exists_of_plain_eq_some (h.whole hnext)
    obtain ⟨linkFits, hlinks⟩ :=
      exists_of_plain_eq_some (readLinks_flatMap hdistinct.1 hlinks hops htighter)
    rw [List.append_assoc, read, hread]
    simp only [hlinks, Option.bind_eq_bind, Option.bind_some]
    cases values with
    | nil => exact absurd rfl hne
    | cons value values => rfl

end Formula.Reads

namespace Latex

/-! ### Signs and levels -/

theorem distinct_levels : Distinct levels := by decide

theorem closers_not_mem : ∀ sign ∈ [")", "]", ","], sign ∉ followers levels := by decide

theorem unopened : ")" ∉ starters levels := by decide

/-- A text for a sign that stands before or between operands, and for itself. -/
structure Connects (mark sign : String) : Prop where
  marks : Marks mark sign
  not_closer : closers.contains sign = false
  not_opener : openers.contains sign = false
  expansion_eq : expansion (.sign sign) = [.sign sign]
  not_ends : endsOperand (.sign sign) = false

theorem Connects.of_mem {mark sign : String} (h : sign ∈ "," :: "." :: operators)
    (hmarks : Marks mark sign) : Connects mark sign := by
  have hplain : ∀ sign ∈ "," :: "." :: operators, closers.contains sign = false ∧
      openers.contains sign = false ∧ expansion (.sign sign) = [.sign sign] ∧
      endsOperand (.sign sign) = false := by decide +kernel
  obtain ⟨hcloser, hopener, hexpansion, hends⟩ := hplain sign h
  exact ⟨hmarks, hcloser, hopener, hexpansion, hends⟩

theorem Connects.infixed {sign : String} (h : sign ∈ operators) :
    Connects (" " ++ sign ++ " ") sign := by
  have hseparates : ∀ sign ∈ operators, Separates signs sign := by decide +kernel
  exact .of_mem (by simp [h]) (.infixed (hseparates sign h))

theorem Connects.comma : Connects ", " "," :=
  .of_mem (by decide) (Marks.of_mem "," (by decide)).append_blank

theorem ne_comma_of_mem {sign : String} (h : sign ∈ operators) : (sign == ",") = false := by
  have hcomma : ∀ sign ∈ operators, (sign == ",") = false := by decide
  exact hcomma sign h

theorem Turns.connects {mark sign : String} (h : Connects mark sign) (after : Bool) :
    Turns after [.sign sign] [.sign sign] false (sign == ",") := by
  have hturns : Turns after _ _ _ _ := Turns.sign h.not_closer h.not_opener
  rwa [h.expansion_eq, h.not_ends] at hturns

/-! ### Texts that are read -/

/-- A text that is read as an expression at the levels from one on, wherever it stands. -/
def Sets (level : Nat) (text : String) (expr : Expr) : Prop :=
  ∃ tokens plain, Writes text tokens ∧ Turns false tokens plain true false ∧
    Reads levels (levels.drop level) plain expr

namespace Sets

variable {level : Nat} {text first second : String} {expr other : Expr}

theorem read?_eq (h : Sets 0 text expr) : read? text = some expr := by
  obtain ⟨tokens, plain, hwrites, hturns, hreads⟩ := h
  have hplain : plain? false tokens = some ([], plain) := by
    have hwhole := hturns [] [] [] rfl
    rwa [List.append_nil, List.append_nil, marked_false] at hwhole
  have hwhole : Formula.plain (read levels levels plain) = some (expr, []) := by
    have hread := hreads.whole (clear_nil _)
    rwa [List.append_nil] at hread
  obtain ⟨fits, hread⟩ := exists_of_plain_eq_some hwhole
  simp [read?, hwrites.tokens?_eq, hplain, hread]

theorem antitone {loose tight : Nat} (h : Sets tight text expr) (hle : loose ≤ tight)
    (htight : tight ≤ levels.length) : Sets loose text expr := by
  obtain ⟨tokens, plain, hwrites, hturns, hreads⟩ := h
  exact ⟨tokens, plain, hwrites, hturns, hreads.antitone distinct_levels hle htight⟩

theorem of_reads {tokens plain : List Token} {tighter : List Level}
    (hdrop : levels.drop level = tighter) (hwrites : Writes text tokens)
    (hturns : Turns false tokens plain true false) (hreads : Reads levels tighter plain expr) :
    Sets level text expr :=
  ⟨tokens, plain, hwrites, hturns, hdrop ▸ hreads⟩

/-! ### Names -/

theorem word {ident : String} (h : IsWord ident) : Sets Strength.atom ident (.name ident) :=
  ⟨_, _, .word h, .word ident, .word ident⟩

theorem symbol {ident : String} (h : ident ∈ ["min", "max", "alpha", "beta", "theta"]) :
    Sets Strength.atom ("\\" ++ ident) (.name ident) := by
  have hsign : ∀ ident ∈ ["min", "max", "alpha", "beta", "theta"],
      "\\" ++ ident ∈ punctuation ∧ closers.contains ("\\" ++ ident) = false ∧
        openers.contains ("\\" ++ ident) = false ∧
        expansion (.sign ("\\" ++ ident)) = [.word ident] ∧
        endsOperand (.sign ("\\" ++ ident)) = true ∧ ("\\" ++ ident == ",") = false := by
    decide +kernel
  obtain ⟨hmem, hcloser, hopener, hexpansion, hends, hcomma⟩ := hsign ident h
  refine ⟨_, [.word ident], .of_marks (.of_mem _ hmem), ?_, .word ident⟩
  have hturns : Turns false _ _ _ _ := Turns.sign hcloser hopener
  rwa [hexpansion, hends, hcomma] at hturns

/-! ### Braces -/

theorem reads_group (level : Nat) {tokens : List Token}
    (h : Reads levels (levels.drop level) tokens expr) (hlevel : level ≤ levels.length) :
    Reads levels (levels.drop Strength.atom) (.sign "(" :: (tokens ++ [.sign ")"])) expr :=
  .group (h.antitone distinct_levels (Nat.zero_le _) hlevel) (closers_not_mem _ (by simp))

theorem reads_left {ops : List (String × (Expr → Expr → Expr))} {join : Expr → Expr → Expr}
    {tokens others : List Token} (sign : String)
    (hdrop : levels.drop level = .left ops :: levels.drop (level + 1))
    (hjoin : ops.lookup sign = some join) (h₁ : Reads levels (levels.drop level) tokens expr)
    (h₂ : Reads levels (levels.drop (level + 1)) others other) :
    Reads levels (levels.drop level) (tokens ++ .sign sign :: others) (join expr other) := by
  have hdistinct := distinct_levels.drop level
  rw [hdrop] at h₁ hdistinct ⊢
  exact Reads.left hjoin hdistinct h₁ h₂

theorem turns_brace {sign : String} (h : sign ∈ braces) (after : Bool) :
    Turns after [.sign sign] (expansion (.sign sign)) (endsOperand (.sign sign)) false := by
  have hbrace : ∀ sign ∈ braces, closers.contains sign = false ∧ openers.contains sign = false ∧
      (sign == ",") = false := by decide
  obtain ⟨hcloser, hopener, hcomma⟩ := hbrace sign h
  have hturns : Turns after _ _ _ _ := Turns.sign hcloser hopener
  rwa [hcomma] at hturns

theorem turns_closing_brace :
    Turns true [.sign "\x7d"] [.sign ")", .sign ")"] true false :=
  turns_brace (by decide) true

/-- An arrow leaves no trace. -/
theorem arrow (h : Sets Strength.atom text expr) :
    Sets Strength.atom ("\\vec\x7b" ++ text ++ "\x7d") expr := by
  obtain ⟨tokens, plain, hwrites, hturns, hreads⟩ := h
  have hopen : Marks "\\vec\x7b" "\\vec\x7b" := .of_mem _ (by decide)
  have hopens : Turns false [.sign "\\vec\x7b"] [.sign "(", .sign "("] false false :=
    turns_brace (by decide) false
  have hinner := reads_group _ hreads (by decide)
  refine of_reads rfl ((Writes.lead hopen hwrites).append .brace (by decide))
    ((hopens.append hturns).append turns_closing_brace) ?_
  simpa using reads_group _ hinner (by decide)

/-- A fraction is a quotient in parentheses. -/
theorem fraction (h₁ : Sets 0 first expr) (h₂ : Sets 0 second other) :
    Sets Strength.atom ("\\frac\x7b" ++ first ++ "\x7d\x7b" ++ second ++ "\x7d")
      (.binary expr .div other) := by
  obtain ⟨tokens, plain, hwrites, hturns, hreads⟩ := h₁
  obtain ⟨others, otherPlain, hotherWrites, hotherTurns, hotherReads⟩ := h₂
  have hopen : Marks "\\frac\x7b" "\\frac\x7b" := .of_mem _ (by decide)
  have hbetween : Marks "\x7d\x7b" "\x7d\x7b" := .of_mem _ (by decide)
  have hopens : Turns false [.sign "\\frac\x7b"] [.sign "(", .sign "("] false false :=
    turns_brace (by decide) false
  have hmiddle : Turns true [.sign "\x7d\x7b"] [.sign ")", .sign "/", .sign "("] false false :=
    turns_brace (by decide) true
  have hwhole := (((hopens.append hturns).append hmiddle).append hotherTurns).append
    turns_closing_brace
  have hnumerator : Reads levels (levels.drop 10) _ expr :=
    (reads_group 0 hreads (by decide)).antitone distinct_levels (by decide) (by decide)
  have hdenominator : Reads levels (levels.drop 11) _ other :=
    (reads_group 0 hotherReads (by decide)).antitone distinct_levels (by decide) (by decide)
  have hquotient : Reads levels (levels.drop 10) _ (.binary expr .div other) :=
    reads_left "/" rfl rfl hnumerator hdenominator
  refine of_reads rfl (((Writes.lead hopen hwrites).join hbetween hotherWrites).append .brace
    (by decide)) (by simpa using hwhole) ?_
  simpa using reads_group 10 hquotient (by decide)

/-! ### Parts with a sign between neighbours -/

theorem exists_separated {mark sign : String} {texts : List String} {exprs : List Expr}
    (hconnects : Connects mark sign) (h : List.Forall₂ (Sets level) texts exprs)
    (hne : texts ≠ []) :
    ∃ tokens plains, Writes (mark.intercalate texts) tokens ∧
      Turns false tokens (separated sign plains) true ((sign == ",") && decide (1 < texts.length)) ∧
      List.Forall₂ (Reads levels (levels.drop level)) plains exprs := by
  induction h with
  | nil => exact absurd rfl hne
  | @cons first expr others exprs hfirst hothers ih =>
      obtain ⟨tokens, plain, hwrites, hturns, hreads⟩ := hfirst
      cases hothers with
      | nil =>
          refine ⟨tokens, [plain], by simpa using hwrites, ?_, .cons hreads .nil⟩
          simpa [separated] using hturns
      | @cons second _ rest _ hsecond hrest =>
          obtain ⟨otherTokens, plains, hotherWrites, hotherTurns, hotherReads⟩ :=
            ih (List.cons_ne_nil _ _)
          have hwhole := (hturns.append (.connects hconnects true)).append hotherTurns
          refine ⟨tokens ++ .sign sign :: otherTokens, plain :: plains, ?_, ?_,
            .cons hreads hotherReads⟩
          · rw [String.intercalate_cons_of_ne_nil (List.cons_ne_nil _ _)]
            exact hwrites.join hconnects.marks hotherWrites
          · have hseveral : (sign == "," || (sign == "," && decide (0 < rest.length))) =
                (sign == ",") := by
              cases sign == "," <;> rfl
            cases hotherReads with
            | cons _ _ => simpa [separated, hseveral] using hwhole

/-! ### Brackets -/

/-- Brackets around a list that may be empty. -/
theorem exists_enclosed {opening start closing stop : String} {texts : List String}
    {exprs : List Expr} (after : Bool) (opened : List Token) (hopening : Marks opening start)
    (hclosing : Marks closing stop) (h : List.Forall₂ (Sets 0) texts exprs)
    (hstart : closers.contains start = false ∧ openers.contains start = true ∧
      endsOperand (.sign start) = false)
    (hstop : closers.contains stop = true)
    (hopened : ∀ plains, List.Forall₂ (Reads levels levels) plains exprs → ∀ later,
      opened? after start ⟨stop, decide (1 < exprs.length)⟩
        (separated "," plains ++ closed stop :: later) = some opened) :
    ∃ tokens plains, Writes (opening ++ commaList texts ++ closing) tokens ∧
      Turns after tokens (opened ++ (separated "," plains ++ [closed stop])) true false ∧
      List.Forall₂ (Reads levels levels) plains exprs := by
  obtain ⟨hcloser, hopener, hends⟩ := hstart
  have hlength := h.length_eq
  cases h with
  | nil =>
      refine ⟨[.sign start, .sign stop], [], ?_, ?_, .nil⟩
      · simpa [commaList] using (Writes.of_marks hopening).close hclosing
      · exact Turns.enclosed (.nil _) ⟨hcloser, hopener⟩ hstop (hopened [] .nil)
  | cons hfirst hothers =>
      obtain ⟨inner, plains, hwrites, hturns, hreads⟩ :=
        exists_separated .comma (.cons hfirst hothers) (List.cons_ne_nil _ _)
      refine ⟨_, plains, (Writes.lead hopening hwrites).close hclosing, ?_, hreads⟩
      rw [beq_self_eq_true, Bool.true_and, hlength] at hturns
      rw [List.cons_append]
      exact Turns.enclosed (hends ▸ hturns) ⟨hcloser, hopener⟩ hstop (hopened plains hreads)

theorem marks_left : Marks "\\left(" "\\left(" := .of_mem _ (by decide)

theorem marks_right : Marks "\\right)" "\\right)" := .of_mem _ (by decide)

theorem marks_floor : Marks "\\lfloor " "\\lfloor" :=
  (Marks.of_mem "\\lfloor" (by decide)).append_blank

theorem marks_ceil : Marks " \\rceil" "\\rceil" :=
  (Marks.of_mem "\\rceil" (by decide)).blank_append

theorem marks_paren : Marks ")" ")" := .of_mem _ (by decide)

/-- What stands in parentheses does not begin with a bracket that closes. -/
theorem opened?_item {tokens : List Token} (h : Reads levels levels tokens expr)
    (rest : List Token) :
    opened? false "\\left(" ⟨"\\right)", false⟩ (tokens ++ rest) = some [.sign "("] := by
  obtain ⟨first, more, rfl, hstarts⟩ := h.starts
  have hclose : first ≠ .sign ")" := fun hclose => unopened (hstarts _ hclose)
  simp [opened?, hclose]

theorem group (h : Sets level text expr) (hlevel : level ≤ levels.length) :
    Sets Strength.atom (Pseudocode.group text) expr := by
  obtain ⟨tokens, plain, hwrites, hturns, hreads⟩ := h
  have hwhole := hreads.antitone distinct_levels (Nat.zero_le _) hlevel
  exact of_reads rfl ((Writes.lead marks_left hwrites).close marks_right)
    (Turns.enclosed hturns ⟨rfl, rfl⟩ rfl fun later => opened?_item hwhole _)
    (reads_group level hreads hlevel)

theorem call {args : List String} {argExprs : List Expr} (h : Sets Strength.atom text expr)
    (hargs : List.Forall₂ (Sets 0) args argExprs) :
    Sets Strength.atom (text ++ Pseudocode.group (commaList args)) (.call expr argExprs) := by
  obtain ⟨tokens, plain, hwrites, hturns, hreads⟩ := h
  obtain ⟨others, plains, hotherWrites, hotherTurns, hotherReads⟩ :=
    exists_enclosed true [.sign "("] marks_left marks_right hargs ⟨rfl, rfl, rfl⟩ rfl
      fun _ _ _ => rfl
  have hstops : (Pseudocode.group (commaList args)).toList.head?.any stops = true :=
    Writes.stops_append (Writes.stops_append marks_left.stops_head _) _
  refine of_reads rfl (hwrites.append hotherWrites hstops) (hturns.append hotherTurns) ?_
  exact Reads.call hreads hotherReads (closers_not_mem _ (by simp)) (closers_not_mem _ (by simp))
    unopened

/-- Brackets that stand for a call of a function. -/
theorem bracketed (func : String) {opening start closing stop : String} {args : List String}
    {argExprs : List Expr} (hopening : Marks opening start) (hclosing : Marks closing stop)
    (hargs : List.Forall₂ (Sets 0) args argExprs)
    (hstart : closers.contains start = false ∧ openers.contains start = true ∧
      endsOperand (.sign start) = false)
    (hstop : closers.contains stop = true ∧ closed stop = .sign ")")
    (hopened : ∀ plains, List.Forall₂ (Reads levels levels) plains argExprs → ∀ later,
      opened? false start ⟨stop, decide (1 < argExprs.length)⟩
        (separated "," plains ++ closed stop :: later) = some [.word func, .sign "("]) :
    Sets Strength.atom (opening ++ commaList args ++ closing) (.call (.name func) argExprs) := by
  obtain ⟨hcloser, hclosed⟩ := hstop
  obtain ⟨tokens, plains, hwrites, hturns, hreads⟩ :=
    exists_enclosed false _ hopening hclosing hargs hstart hcloser hopened
  rw [hclosed] at hturns
  refine of_reads rfl hwrites hturns ?_
  exact Reads.call (.word func) hreads (closers_not_mem _ (by simp)) (closers_not_mem _ (by simp))
    unopened

section Delimiters

variable {args : List String} {argExprs : List Expr} (hargs : List.Forall₂ (Sets 0) args argExprs)

include hargs

theorem floor :
    Sets Strength.atom ("\\lfloor " ++ commaList args ++ " \\rfloor")
      (.call (.name "floor") argExprs) := by
  have hclose : Marks "\\rfloor" "\\rfloor" := .of_mem _ (by decide)
  exact bracketed _ marks_floor hclose.blank_append hargs ⟨rfl, rfl, rfl⟩ ⟨rfl, rfl⟩
    fun _ _ _ => rfl

theorem round :
    Sets Strength.atom ("\\lfloor " ++ commaList args ++ " \\rceil")
      (.call (.name "round") argExprs) :=
  bracketed _ marks_floor marks_ceil hargs ⟨rfl, rfl, rfl⟩ ⟨rfl, rfl⟩ fun _ _ _ => rfl

theorem ceil :
    Sets Strength.atom ("\\lceil " ++ commaList args ++ " \\rceil")
      (.call (.name "ceil") argExprs) := by
  have hopen : Marks "\\lceil" "\\lceil" := .of_mem _ (by decide)
  exact bracketed _ hopen.append_blank marks_ceil hargs ⟨rfl, rfl, rfl⟩ ⟨rfl, rfl⟩ fun _ _ _ => rfl

/-- Parentheses around several items or none are those of a vector. -/
theorem vector (hlength : argExprs.length ≠ 1) :
    Sets Strength.atom (Pseudocode.group (commaList args)) (.call (.name "Vector2D") argExprs) := by
  refine bracketed _ marks_left marks_right hargs ⟨rfl, rfl, rfl⟩ ⟨rfl, rfl⟩
    fun plains hplains later => ?_
  match argExprs, hplains with
  | [], .nil => rfl
  | [_], _ => exact absurd rfl hlength
  | _ :: _ :: _, _ => rfl

end Delimiters

/-! ### Intervals -/

theorem interval {start stop : String} (h₁ : Sets 0 start expr) (h₂ : Sets 0 stop other) :
    Sets Strength.atom ("[" ++ start ++ ", " ++ stop ++ ")")
      (.call (.name "range") [expr, other]) := by
  have hcall := bracketed "range" .bracket marks_paren (.cons h₁ (.cons h₂ .nil))
    ⟨rfl, rfl, rfl⟩ ⟨rfl, rfl⟩ fun _ _ _ => rfl
  rw [commaList, intercalate_pair] at hcall
  simpa [String.append_assoc] using hcall

theorem interval_zero {stop : String} (h : Sets 0 stop expr) :
    Sets Strength.atom ("[0, " ++ stop ++ ")") (.call (.name "range") [expr]) := by
  have hopen : Marks "[0," "[0," := .of_mem _ (by decide)
  have hcall := bracketed "range" hopen.append_blank marks_paren (.cons h .nil)
    ⟨rfl, rfl, rfl⟩ ⟨rfl, rfl⟩ fun _ _ _ => rfl
  rwa [commaList, String.intercalate_singleton] at hcall

/-! ### What comes after a value -/

theorem member {attr : String} (h : Sets Strength.atom text expr) (hattr : IsWord attr) :
    Sets Strength.atom (text ++ "." ++ attr) (.member expr attr) := by
  obtain ⟨tokens, plain, hwrites, hturns, hreads⟩ := h
  have hdot : Marks "." "." := .of_mem _ (by decide)
  have hconnects : Connects "." "." := .of_mem (by decide) hdot
  exact of_reads rfl (hwrites.join hdot (.word hattr))
    (hturns.append ((Turns.connects hconnects true).append (.word attr))) (Reads.member hreads attr)

theorem subscript {index : String} {indexExpr : Expr} (h : Sets Strength.atom text expr)
    (hindex : Sets 0 index indexExpr) :
    Sets Strength.atom (text ++ "[" ++ index ++ "]") (.subscript expr indexExpr) := by
  obtain ⟨tokens, plain, hwrites, hturns, hreads⟩ := h
  obtain ⟨inner, innerPlain, hinnerWrites, hinnerTurns, hinnerReads⟩ := hindex
  have hclose : Marks "]" "]" := .of_mem _ (by decide)
  have hbrackets : Turns true (.sign "[" :: (inner ++ [.sign "]"]))
      ([.sign "["] ++ (innerPlain ++ [.sign "]"])) true false :=
    Turns.enclosed hinnerTurns ⟨rfl, rfl⟩ rfl fun _ => rfl
  refine of_reads rfl ((hwrites.join .bracket hinnerWrites).close hclose) ?_
    (Reads.subscript hreads hinnerReads (closers_not_mem _ (by simp)))
  simpa using hturns.append hbrackets

/-! ### Operators -/

theorem left {ops : List (String × (Expr → Expr → Expr))} {sign : String}
    {join : Expr → Expr → Expr} (hsign : sign ∈ operators)
    (hdrop : levels.drop level = .left ops :: levels.drop (level + 1))
    (hjoin : ops.lookup sign = some join) (h₁ : Sets level first expr)
    (h₂ : Sets (level + 1) second other) :
    Sets level (first ++ (" " ++ sign ++ " ") ++ second) (join expr other) := by
  obtain ⟨tokens, plain, hwrites, hturns, hreads⟩ := h₁
  obtain ⟨others, otherPlain, hotherWrites, hotherTurns, hotherReads⟩ := h₂
  have hconnects := Connects.infixed hsign
  have hturn := Turns.connects hconnects true
  rw [ne_comma_of_mem hsign] at hturn
  exact of_reads rfl (hwrites.join hconnects.marks hotherWrites)
    (hturns.append (hturn.append hotherTurns)) (reads_left sign hdrop hjoin hreads hotherReads)

theorem stepped_interval {start stop step : String} {third : Expr} (h₁ : Sets 0 start expr)
    (h₂ : Sets 0 stop other) (h₃ : Sets 1 step third) :
    Sets 0 ("[" ++ start ++ ", " ++ stop ++ ") \\text\x7b by \x7d " ++ step)
      (.call (.name "range") [expr, other, third]) := by
  have hinterval := (interval h₁ h₂).antitone (Nat.zero_le _) (Nat.le_refl _)
  have hop : [("\\text\x7b by \x7d", stepped)].lookup "\\text\x7b by \x7d" = some stepped := rfl
  have hmark : ") \\text\x7b by \x7d " = ")" ++ (" " ++ "\\text\x7b by \x7d" ++ " ") := by decide
  have htext : "[" ++ start ++ ", " ++ stop ++ ") \\text\x7b by \x7d " =
      "[" ++ start ++ ", " ++ stop ++ ")" ++ (" " ++ "\\text\x7b by \x7d" ++ " ") := by
    rw [hmark]
    exact String.append_assoc.symm
  rw [htext]
  exact left (by decide) rfl hop hinterval h₃

theorem before {ops : List (String × UnaryOp)} {mark sign : String} {op : UnaryOp}
    {tighter : List Level} (hconnects : Connects mark sign) (hsign : sign ∈ operators)
    (hdrop : levels.drop level = .before ops :: tighter) (hop : ops.lookup sign = some op)
    (h : Sets level text expr) : Sets level (mark ++ text) (.unary op expr) := by
  obtain ⟨tokens, plain, hwrites, hturns, hreads⟩ := h
  have hturn := Turns.connects hconnects false
  rw [ne_comma_of_mem hsign] at hturn
  rw [hdrop] at hreads
  exact of_reads hdrop (Writes.lead hconnects.marks hwrites) (hturn.append hturns)
    (Reads.before hop hreads)

/-- The exponent of a power is read one level looser, with the signs before it. -/
theorem power (h₁ : Sets Strength.atom first expr) (h₂ : Sets Strength.unary second other) :
    Sets 12 (first ++ (" " ++ "^" ++ " ") ++ second) (.binary expr .pow other) := by
  obtain ⟨tokens, plain, hwrites, hturns, hreads⟩ := h₁
  obtain ⟨others, otherPlain, hotherWrites, hotherTurns, hotherReads⟩ := h₂
  have hconnects : Connects (" " ++ "^" ++ " ") "^" := .infixed (by decide)
  exact of_reads rfl (hwrites.join hconnects.marks hotherWrites)
    (hturns.append ((Turns.connects hconnects true).append hotherTurns))
    (Reads.power (by decide) hreads hotherReads)

theorem run {sign : String} {op : BoolOp} {texts : List String} {exprs : List Expr}
    (hsign : sign ∈ operators)
    (hdrop : levels.drop level = .run sign op :: levels.drop (level + 1))
    (h : List.Forall₂ (Sets (level + 1)) texts exprs) (hlength : 2 ≤ exprs.length) :
    Sets level ((" " ++ sign ++ " ").intercalate texts) (.bool op exprs) := by
  have hne : texts ≠ [] := by
    rintro rfl
    cases h
    simp at hlength
  obtain ⟨tokens, plains, hwrites, hturns, hreads⟩ :=
    exists_separated (.infixed hsign) h hne
  rw [ne_comma_of_mem hsign, Bool.false_and] at hturns
  have hdistinct := distinct_levels.drop level
  rw [hdrop] at hdistinct
  refine of_reads hdrop hwrites hturns ?_
  match hreads with
  | .nil => simp at hlength
  | .cons _ .nil => simp at hlength
  | .cons hfirst (.cons hsecond hothers) =>
      exact Reads.run (hdistinct.1 sign (List.mem_singleton_self sign)) hfirst hsecond hothers

/-! ### Comparisons -/

/-- The text of a comparison sign and of the operand after it. -/
def linkText (link : String × String) : String := " " ++ link.1 ++ " " ++ link.2

theorem exists_links {links : List (String × String)} {values : List (CompareOp × Expr)}
    {tokens : List Token} (hwrites : Writes text tokens)
    (h : List.Forall₂ (fun link value => link.1 ∈ operators ∧
      comparisons.lookup link.1 = some value.1 ∧ Sets level link.2 value.2) links values) :
    ∃ more plains, Writes (text ++ String.join (links.map linkText)) (tokens ++ more) ∧
      Turns true more (plains.flatMap linked) true false ∧
      List.Forall₂ (fun link value => comparisons.lookup link.1 = some value.1 ∧
        Reads levels (levels.drop level) link.2 value.2) plains values := by
  induction h generalizing text tokens with
  | nil => exact ⟨[], [], by simpa using hwrites, .nil true, .nil⟩
  | @cons link value links values hlink _ ih =>
      obtain ⟨sign, operand⟩ := link
      obtain ⟨hsign, hop, inner, plain, hinnerWrites, hinnerTurns, hinnerReads⟩ := hlink
      have hconnects := Connects.infixed hsign
      have hturn := Turns.connects hconnects true
      rw [ne_comma_of_mem hsign] at hturn
      obtain ⟨more, plains, hmoreWrites, hmoreTurns, hmoreReads⟩ :=
        ih (hwrites.join hconnects.marks hinnerWrites)
      refine ⟨.sign sign :: (inner ++ more), (sign, plain) :: plains, ?_, ?_,
        .cons ⟨hop, hinnerReads⟩ hmoreReads⟩
      · simpa [linkText, String.append_assoc] using hmoreWrites
      · simpa [linked] using (hturn.append hinnerTurns).append hmoreTurns

theorem chain {links : List (String × String)} {values : List (CompareOp × Expr)}
    (h : Sets (Strength.comparison + 1) text expr)
    (hlinks : List.Forall₂ (fun link value => link.1 ∈ operators ∧
      comparisons.lookup link.1 = some value.1 ∧
      Sets (Strength.comparison + 1) link.2 value.2) links values) (hne : values ≠ []) :
    Sets Strength.comparison (text ++ String.join (links.map linkText))
      (.compare expr (values.map Prod.fst) (values.map Prod.snd)) := by
  obtain ⟨tokens, plain, hwrites, hturns, hreads⟩ := h
  obtain ⟨more, plains, hmoreWrites, hmoreTurns, hmoreReads⟩ := exists_links hwrites hlinks
  have hdistinct : Distinct (.chain comparisons :: levels.drop (Strength.comparison + 1)) :=
    distinct_levels.drop Strength.comparison
  exact of_reads rfl hmoreWrites (hturns.append hmoreTurns)
    (Reads.chain hdistinct hreads hmoreReads hne)

end Sets

end Latex

end Snippet
