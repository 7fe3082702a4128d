import Mathlib
import Snippet.Proofs.Latex.Forms
import Snippet.Proofs.Latex.Prose

/-!
# Formulas keep their meaning

The pseudocode of an expression, read as a formula, gives what the formula shows, unless a part is in
the wrong place. Parts are grouped by what they are in the tree: a conversion is not written, so that
what it converts stands in its place, and an interval with a step binds more loosely than a call.
A callee with a blank is taken for a sentence, so that its arguments are no part of the formula.
-/

namespace Snippet

open Formula Latex Render

/-! ### Parts in the wrong place -/

namespace Expr

section Places

variable (around : Surroundings)

/-- How tightly the formula of an expression binds. A fraction needs no parentheses anywhere, and an
interval with a step needs them in every operand; a function with an arrow has no interval. -/
def grip (expr : Expr) : Nat :=
  match expr.unconverted around with
  | .call (.name "range") [_, _, _] => if hasArrow around "range" then Strength.atom else 0
  | .binary _ .div _ => Strength.atom
  | shown => shown.strength

/-- An expression that the tree leaves without parentheses where at least the strength `asked` is
needed binds tightly enough for its place. -/
def fits (expr : Expr) (asked place : Nat) : Bool :=
  decide (asked ≤ expr.strength → place ≤ expr.grip around)

/-- The step of an interval is no such interval itself. -/
def stepFits (func : Expr) (args : List Expr) : Bool :=
  match func.unconverted around, args with
  | .name "range", [_, _, step] => hasArrow around "range" || decide (0 < step.grip around)
  | _, _ => true

mutual

/-- Every operand, callee and value fits its place, and no callee is prose. -/
@[simp]
def sound : Expr → Bool
  | .member value _ => value.fits around Strength.atom Strength.atom && value.sound
  | .unary op operand =>
    operand.fits around Strength.unary (Operator.unary op).strength && operand.sound
  | .binary left .div right => left.sound && right.sound
  | .binary left op right =>
    left.fits around op.leastStrengths.1 op.leastStrengths.1 &&
      right.fits around op.leastStrengths.2 (min op.leastStrengths.2 Strength.unary) &&
      left.sound && right.sound
  | .bool op values =>
    let place := (Operator.bool op).strength + 1
    values.all (fun value => value.fits around place place) && soundAll values
  | .compare left _ comparators =>
    let place := Strength.comparison + 1
    (left :: comparators).all (fun expr => expr.fits around place place) &&
      left.sound && soundAll comparators
  | .call func args =>
    !func.isProse around && func.fits around Strength.atom Strength.atom &&
      stepFits around func args && func.sound && soundAll args
  | .subscript value index =>
    value.fits around Strength.atom Strength.atom && value.sound && index.sound
  | _ => true

@[simp]
def soundAll : List Expr → Bool
  | [] => true
  | expr :: rest => expr.sound && soundAll rest

end

end Places

theorem sound_binary (around : Surroundings) {left right : Expr} {op : BinaryOp} (hdiv : op ≠ .div) :
    (Expr.binary left op right).sound around =
      (left.fits around op.leastStrengths.1 op.leastStrengths.1 &&
        right.fits around op.leastStrengths.2 (min op.leastStrengths.2 Strength.unary) &&
        left.sound around && right.sound around) := by
  cases op <;> first | rfl | contradiction

theorem soundAll_eq_all (around : Surroundings) (exprs : List Expr) :
    soundAll around exprs = exprs.all (sound around) := by
  induction exprs with
  | nil => rfl
  | cons expr rest ih => rw [soundAll, ih, List.all_cons]

theorem le_grip {around : Surroundings} {expr : Expr} {asked place : Nat}
    (h : expr.fits around asked place = true) : asked ≤ expr.strength → place ≤ expr.grip around :=
  of_decide_eq_true h

theorem grip_le_atom (around : Surroundings) (expr : Expr) : expr.grip around ≤ Strength.atom := by
  rw [grip]
  split
  · split <;> decide
  · exact Nat.le_refl _
  · exact strength_le_atom _

/-- The formula of an expression. -/
def Formulates (around : Surroundings) (text : String) (expr : Expr) : Prop :=
  Sets (expr.grip around) text (expr.unconverted around)

end Expr

/-! ### Names -/

theorem sets_name (around : Surroundings) {ident : String} (hword : IsWord ident)
    (hplain : '_' ∉ ident.toList) :
    Sets Strength.atom (Pseudocode.name around ident false) (.name ident) := by
  have hsymbol : Sets Strength.atom (Pseudocode.symbol ident) (.name ident) := by
    rw [symbol_of_plain hplain]
    split
    · next hmem => exact .symbol (by simpa using hmem)
    · exact .word hword
  rw [Pseudocode.name]
  split
  · exact hsymbol.arrow
  · exact hsymbol

theorem not_sets_vector {level : Nat} {expr : Expr} : ¬Sets level "Vector2D" expr := by
  rintro ⟨tokens, _, hwrites, -⟩
  have hnone : tokens? signs "Vector2D".toList = none := by decide +kernel
  exact nomatch hnone.symm.trans hwrites.tokens?_eq

/-! ### Operands in their places -/

section Places

variable {expr tree : Expr} {text : String} {level place : Nat}

theorem sets_operand {op : Operator} {least : Nat} (hop : op ≠ .binary .div)
    (hlevel : level ≤ Strength.atom) (hplace : place ≤ Strength.atom)
    (htight : least ≤ expr.strength → place ≤ level) (h : Sets level text tree) :
    Sets place (Target.operand (.pseudocode none) op least expr text) tree := by
  rw [Target.operand]
  by_cases hloose : expr.strength < least
  · rw [if_pos (by simpa [Target.groupsOperands, Pseudocode.groupsOperands, hop] using hloose)]
    exact (h.group hlevel).antitone hplace (Nat.le_refl _)
  · rw [if_neg (by simp [hloose])]
    exact h.antitone (htight (Nat.not_lt.mp hloose)) hlevel

theorem sets_atom (hlevel : level ≤ Strength.atom)
    (htight : Strength.atom ≤ expr.strength → Strength.atom ≤ level) (h : Sets level text tree) :
    Sets Strength.atom (Target.atom (.pseudocode none) expr text) tree := by
  rw [Target.atom]
  by_cases hloose : expr.strength < Strength.atom
  · rw [if_pos hloose]
    exact h.group hlevel
  · rw [if_neg hloose]
    exact h.antitone (htight (Nat.not_lt.mp hloose)) hlevel

end Places

/-! ### Operators -/

section Operators

variable {left right : Expr} {first second : String}

theorem sets_unary (op : UnaryOp) {text : String} {expr : Expr}
    (h : Sets (Operator.unary op).strength text expr) :
    Sets (Operator.unary op).strength (Pseudocode.unary op text) (.unary op expr) := by
  cases op with
  | not =>
      have hconnects : Connects ("\\neg" ++ " ") "\\neg" :=
        .of_mem (by decide) (Marks.of_mem "\\neg" (by decide)).append_blank
      exact .before hconnects (by decide) rfl rfl h
  | invert => exact .before (.of_mem (by decide) (.of_mem _ (by decide))) (by decide) rfl rfl h
  | plus => exact .before (.of_mem (by decide) (.of_mem _ (by decide))) (by decide) rfl rfl h
  | minus => exact .before (.of_mem (by decide) (.of_mem _ (by decide))) (by decide) rfl rfl h

theorem sets_left {level : Nat} {ops : List (String × BinaryOp)} {sign : String} {op : BinaryOp}
    (hsign : sign ∈ operators)
    (hdrop : levels.drop level = binaries ops :: levels.drop (level + 1))
    (hop : ops.lookup sign = some op) (h₁ : Sets level first left)
    (h₂ : Sets (level + 1) second right) :
    Sets level (first ++ (" " ++ sign ++ " ") ++ second) (.binary left op right) :=
  Sets.left hsign hdrop (lookup_map (fun op left right => Expr.binary left op right) hop) h₁ h₂

theorem sets_binary {op : BinaryOp} (hdiv : op ≠ .div) (hxor : op ≠ .bitXor)
    (h₁ : Sets op.leastStrengths.1 first left)
    (h₂ : Sets (min op.leastStrengths.2 Strength.unary) second right) :
    Sets op.strength (Pseudocode.infixed (.binary op) [first, second]) (.binary left op right) := by
  have hinfixed : Pseudocode.infixed (.binary op) [first, second] =
      first ++ (" " ++ Pseudocode.operator (.binary op) ++ " ") ++ second := by
    rw [← intercalate_pair]
    cases op <;> first | rfl | contradiction
  rw [hinfixed]
  cases op with
  | div => exact absurd rfl hdiv
  | bitXor => exact absurd rfl hxor
  | pow => exact .power h₁ h₂
  | _ => exact sets_left (by decide) rfl rfl h₁ h₂

theorem sets_bool (op : BoolOp) {texts : List String} {exprs : List Expr}
    (h : List.Forall₂ (Sets ((Operator.bool op).strength + 1)) texts exprs)
    (hlength : 2 ≤ exprs.length) :
    Sets (Operator.bool op).strength (Pseudocode.infixed (.bool op) texts) (.bool op exprs) := by
  cases op <;> exact Sets.run (by decide) rfl h hlength

theorem mem_comparisons (op : CompareOp) :
    Pseudocode.operator (.compare op) ∈ operators ∧
      Latex.comparisons.lookup (Pseudocode.operator (.compare op)) = some op.shown := by
  cases op <;> exact ⟨by decide, rfl⟩

end Operators

/-! ### Parts in a row -/

section Rows

variable {around : Surroundings} {exprs : List Expr} {texts : List String}

/-- The formula of an expression, if it has one, shows it. -/
def Expr.Keeps (around : Surroundings) (expr : Expr) : Prop :=
  ∀ text, expr.render (.pseudocode none) around false = .ok text → expr.Formulates around text

theorem sets_operand_of_fits {expr : Expr} {text : String} {op : Operator} {least place : Nat}
    (hop : op ≠ .binary .div) (hplace : place ≤ Strength.atom)
    (hfits : expr.fits around least place = true) (h : expr.Formulates around text) :
    Sets place (Target.operand (.pseudocode none) op least expr text) (expr.unconverted around) :=
  sets_operand hop (expr.grip_le_atom around) hplace (Expr.le_grip hfits) h

theorem formulates_of_renderAll (h : ∀ expr ∈ exprs, expr.Keeps around)
    (hrender : Expr.renderAll (.pseudocode none) around false exprs = .ok texts) :
    List.Forall₂ (fun text expr => expr.Formulates around text) texts exprs := by
  induction exprs generalizing texts with
  | nil =>
      obtain rfl : [] = texts := by simpa [Expr.renderAll] using hrender
      exact .nil
  | cons expr rest ih =>
      rw [Expr.renderAll] at hrender
      obtain ⟨text, htext, hrender⟩ := exists_of_bind_eq_ok hrender
      obtain ⟨others, hothers, hrender⟩ := exists_of_bind_eq_ok hrender
      obtain rfl : text :: others = texts := Except.ok.inj hrender
      exact .cons (h expr List.mem_cons_self text htext)
        (ih (fun next hnext => h next (List.mem_cons_of_mem _ hnext)) hothers)

theorem sets_of_formulates {expr : Expr} (h : expr.Formulates around text) :
    Sets 0 text (expr.unconverted around) :=
  h.antitone (Nat.zero_le _) (expr.grip_le_atom around)

theorem forall₂_sets (h : List.Forall₂ (fun text expr => expr.Formulates around text) texts exprs) :
    List.Forall₂ (Sets 0) texts (Expr.unconvertedAll around exprs) := by
  rw [Expr.unconvertedAll_eq_map, List.forall₂_map_right_iff]
  exact h.imp fun text expr => sets_of_formulates

theorem sets_of_renderOperands {op : Operator} {place : Nat} (hop : op ≠ .binary .div)
    (hplace : place ≤ Strength.atom) (hfits : ∀ expr ∈ exprs, expr.fits around place place = true)
    (h : ∀ expr ∈ exprs, expr.Keeps around)
    (hrender : Expr.renderOperands (.pseudocode none) around false op place exprs = .ok texts) :
    List.Forall₂ (Sets place) texts (Expr.unconvertedAll around exprs) := by
  induction exprs generalizing texts with
  | nil =>
      obtain rfl : [] = texts := by simpa [Expr.renderOperands] using hrender
      exact .nil
  | cons expr rest ih =>
      rw [Expr.renderOperands] at hrender
      obtain ⟨text, htext, hrender⟩ := exists_of_bind_eq_ok hrender
      obtain ⟨others, hothers, hrender⟩ := exists_of_bind_eq_ok hrender
      obtain rfl := Except.ok.inj hrender
      have hsets := h expr List.mem_cons_self text htext
      exact .cons (sets_operand_of_fits hop hplace (hfits expr List.mem_cons_self) hsets)
        (ih (fun next hnext => hfits next (List.mem_cons_of_mem _ hnext))
          (fun next hnext => h next (List.mem_cons_of_mem _ hnext)) hothers)

theorem sets_of_renderLinks {ops : List CompareOp} {rest : List (Operator × String)}
    (hlength : exprs.length = ops.length)
    (hfits : ∀ expr ∈ exprs,
      expr.fits around (Strength.comparison + 1) (Strength.comparison + 1) = true)
    (h : ∀ expr ∈ exprs, expr.Keeps around)
    (hrender : Expr.renderLinks (.pseudocode none) around false ops exprs = .ok rest) :
    List.Forall₂ (fun link value => link.1 ∈ operators ∧
        Latex.comparisons.lookup link.1 = some value.1 ∧
        Sets (Strength.comparison + 1) link.2 value.2)
      (rest.map fun (op, text) => (Pseudocode.operator op, text))
      ((ops.map CompareOp.shown).zip (Expr.unconvertedAll around exprs)) := by
  induction exprs generalizing ops rest with
  | nil =>
      obtain rfl : ops = [] := List.length_eq_zero_iff.mp hlength.symm
      obtain rfl : [] = rest := by simpa [Expr.renderLinks] using hrender
      exact .nil
  | cons expr others ih =>
      cases ops with
      | nil => cases hlength
      | cons op ops =>
          rw [Expr.renderLinks] at hrender
          obtain ⟨text, htext, hrender⟩ := exists_of_bind_eq_ok hrender
          obtain ⟨links, hlinks, hrender⟩ := exists_of_bind_eq_ok hrender
          obtain rfl := Except.ok.inj hrender
          have hsets := h expr List.mem_cons_self text htext
          obtain ⟨hsign, hlookup⟩ := mem_comparisons op
          refine .cons ⟨hsign, hlookup, ?_⟩ (ih (Nat.succ.inj hlength)
            (fun next hnext => hfits next (List.mem_cons_of_mem _ hnext))
            (fun next hnext => h next (List.mem_cons_of_mem _ hnext)) hlinks)
          exact sets_operand_of_fits (by simp) (by decide) (hfits expr List.mem_cons_self) hsets

end Rows

/-! ### Expressions -/

theorem formulates_of_atom {around : Surroundings} {text : String} {expr : Expr}
    (h : Sets Strength.atom text (expr.unconverted around)) : expr.Formulates around text :=
  h.antitone (expr.grip_le_atom around) (Nat.le_refl _)

section Calls

variable {around : Surroundings} {func : Expr} {args : List Expr} {callee text : String}
  {texts : List String}

theorem formulates_of_unconverted_eq {expr other : Expr} (h : other.Formulates around text)
    (heq : expr.unconverted around = other.unconverted around) : expr.Formulates around text := by
  rw [Expr.Formulates, Expr.grip, heq]
  exact h

theorem formulates_plainCall (hfunc : Sets Strength.atom callee (func.unconverted around))
    (hprose : Pseudocode.isSentence callee = false)
    (hargs : List.Forall₂ (Sets 0) texts (Expr.unconvertedAll around args))
    (hkept : (Expr.call func args).unconverted around =
      .call (func.unconverted around) (Expr.unconvertedAll around args)) :
    (Expr.call func args).Formulates around (Pseudocode.plainCall callee texts) := by
  refine formulates_of_atom ?_
  rw [hkept, Pseudocode.plainCall, if_neg (by simp [hprose])]
  exact hfunc.call hargs

/-- A conversion shows what it converts; with another number of arguments it is a call. -/
theorem formulates_int (hint : func.unconverted around = .name "int")
    (harrow : Expr.hasArrow around "int" = false)
    (hfunc : Sets Strength.atom "int" (func.unconverted around))
    (hargs : List.Forall₂ (fun text expr => expr.Formulates around text) texts args)
    (hcall : Pseudocode.call? "int" texts = some text) :
    (Expr.call func args).Formulates around text := by
  have hsets := forall₂_sets hargs
  cases hargs with
  | nil =>
      obtain rfl := Option.some.inj hcall
      exact formulates_plainCall hfunc (by decide) hsets (by rw [Expr.unconverted, hint]; rfl)
  | @cons valueText value others rest hvalue hrest =>
      cases hrest with
      | nil =>
          obtain rfl := Option.some.inj hcall
          refine formulates_of_unconverted_eq hvalue ?_
          rw [Expr.unconverted, hint]
          exact if_neg (by simp [harrow])
      | cons hsecond hothers =>
          obtain rfl := Option.some.inj hcall
          exact formulates_plainCall hfunc (by decide) hsets (by rw [Expr.unconverted, hint]; rfl)

/-- A call of `range` is an interval, which a third argument makes loose. -/
theorem formulates_range (hrange : func.unconverted around = .name "range")
    (harrow : Expr.hasArrow around "range" = false)
    (hstep : Expr.stepFits around func args = true)
    (hargs : List.Forall₂ (fun text expr => expr.Formulates around text) texts args)
    (hcall : Pseudocode.interval? texts = some text) :
    (Expr.call func args).Formulates around text := by
  have hshown : (Expr.call func args).unconverted around =
      .call (.name "range") (Expr.unconvertedAll around args) := by
    rw [Expr.unconverted, hrange]
    rfl
  cases hargs with
  | nil => cases hcall
  | @cons firstText first texts others hfirst hothers =>
      cases hothers with
      | nil =>
          obtain rfl := Option.some.inj hcall
          exact formulates_of_atom (hshown ▸ .interval_zero (sets_of_formulates hfirst))
      | @cons secondText second texts others hsecond hothers =>
          cases hothers with
          | nil =>
              obtain rfl := Option.some.inj hcall
              exact formulates_of_atom (hshown ▸
                .interval (sets_of_formulates hfirst) (sets_of_formulates hsecond))
          | @cons thirdText third texts others hthird hothers =>
              cases hothers with
              | nil =>
                  obtain rfl := Option.some.inj hcall
                  have hgripped : 0 < third.grip around := by
                    simpa [Expr.stepFits, hrange, harrow] using hstep
                  have htight := hthird.antitone hgripped (third.grip_le_atom around)
                  have hgrip : (Expr.call func [first, second, third]).grip around = 0 := by
                    rw [Expr.grip, hshown]
                    exact if_neg (by simp [harrow])
                  rw [Expr.Formulates, hgrip, hshown]
                  exact .stepped_interval (sets_of_formulates hfirst) (sets_of_formulates hsecond)
                    htight
              | cons hfourth hothers => cases hcall

theorem formulates_call (hfunc : Sets Strength.atom callee (func.unconverted around))
    (hword : isWordy callee = true →
      func.unconverted around = .name callee ∧ Expr.hasArrow around callee = false)
    (hname : ∀ ident, func.unconverted around = .name ident →
      callee = Pseudocode.name around ident false)
    (hprose : Pseudocode.isSentence callee = false)
    (hstep : Expr.stepFits around func args = true)
    (hargs : List.Forall₂ (fun text expr => expr.Formulates around text) texts args)
    (hcall : Pseudocode.call? callee texts = some text) :
    (Expr.call func args).Formulates around text := by
  have hsets := forall₂_sets hargs
  have hkept : callee ≠ "int" → (Expr.call func args).unconverted around =
      .call (func.unconverted around) (Expr.unconvertedAll around args) := by
    intro hne
    refine Expr.applied_of_ne (fun hint => ?_) _
    refine Bool.not_eq_false _ ▸ fun harrow => hne ?_
    rw [hname _ hint, name_eq_self (by decide) harrow]
  have hshown : ∀ ident, callee = ident → ident ≠ "int" → isWordy ident = true →
      (Expr.call func args).unconverted around =
        .call (.name ident) (Expr.unconvertedAll around args) := by
    rintro ident rfl hne hwordy
    rw [hkept hne, (hword hwordy).1]
  rw [Pseudocode.call?.eq_def] at hcall
  split at hcall
  · obtain ⟨hint, harrow⟩ := hword (by decide)
    exact formulates_int hint harrow hfunc hargs hcall
  · obtain rfl := Option.some.inj hcall
    exact formulates_of_atom (hshown "round" rfl (by decide) (by decide) ▸ .round hsets)
  · obtain rfl := Option.some.inj hcall
    exact formulates_of_atom (hshown "floor" rfl (by decide) (by decide) ▸ .floor hsets)
  · obtain rfl := Option.some.inj hcall
    exact formulates_of_atom (hshown "ceil" rfl (by decide) (by decide) ▸ .ceil hsets)
  · obtain ⟨hrange, harrow⟩ := hword (by decide)
    exact formulates_range hrange harrow hstep hargs hcall
  · exact absurd hfunc not_sets_vector
  · next hne _ _ _ _ _ =>
      obtain rfl := Option.some.inj hcall
      exact formulates_plainCall hfunc hprose hsets (hkept hne)

end Calls

namespace Expr.Formulaic

variable {around : Surroundings} {expr : Expr}

theorem keeps_member {value : Expr} {attr : String} (h : value.Formulaic around)
    (hword : IsWord attr) (hsound : (Expr.member value attr).sound around = true)
    (hkeeps : value.sound around = true → value.Keeps around) :
    (Expr.member value attr).Keeps around := by
  rw [Expr.sound, Bool.and_eq_true] at hsound
  obtain ⟨hfits, hvalue⟩ := hsound
  intro text hrender
  obtain ⟨object, hobject, rfl⟩ := Expr.exists_parts_of_member hrender
  have hatom := sets_atom (value.grip_le_atom around) (Expr.le_grip hfits)
    (hkeeps hvalue object hobject)
  have hmath : Target.atom (.pseudocode none) value object ≠ "math" := by
    intro htext
    have hwordy : isWordy (Target.atom (.pseudocode none) value object) = true := by
      rw [htext]
      decide
    obtain rfl : object = "math" := (atom_eq_of_isWordy hwordy).symm.trans htext
    exact h.unconverted_ne_math (h.unconverted_of_isWordy hobject (by decide)).1
  rw [Target.member, mathMember_eq, if_neg hmath]
  exact hatom.member hword

/-- The parts of a fraction stand between braces, and those of the other operators in places of their
own. -/
theorem keeps_binary {left right : Expr} {op : BinaryOp} (hxor : op ≠ .bitXor)
    (hsound : (Expr.binary left op right).sound around = true)
    (hkeepsLeft : left.sound around = true → left.Keeps around)
    (hkeepsRight : right.sound around = true → right.Keeps around) :
    (Expr.binary left op right).Keeps around := by
  intro text hrender
  obtain ⟨leftText, rightText, hleftText, hrightText, rfl⟩ := Expr.exists_parts_of_binary hrender
  by_cases hdiv : op = .div
  · subst hdiv
    rw [Expr.sound, Bool.and_eq_true] at hsound
    have hungrouped : ∀ (expr : Expr) (text : String) (least : Nat),
        Target.operand (.pseudocode none) (.binary .div) least expr text = text :=
      fun expr text least => if_neg (by simp [Target.groupsOperands, Pseudocode.groupsOperands])
    rw [hungrouped, hungrouped]
    exact .fraction (sets_of_formulates (hkeepsLeft hsound.1 leftText hleftText))
      (sets_of_formulates (hkeepsRight hsound.2 rightText hrightText))
  · simp only [sound_binary around hdiv, Bool.and_eq_true] at hsound
    obtain ⟨⟨⟨hleft, hright⟩, hsoundLeft⟩, hsoundRight⟩ := hsound
    have hop : Operator.binary op ≠ .binary .div := by simpa using hdiv
    have hgrip : (Expr.binary left op right).grip around = op.strength := by
      cases op <;> first | rfl | contradiction
    obtain ⟨hleftPlace, hrightPlace⟩ := op.leastStrengths_le
    rw [Expr.Formulates, hgrip]
    exact sets_binary hdiv hxor
      (sets_operand_of_fits hop hleftPlace hleft (hkeepsLeft hsoundLeft leftText hleftText))
      (sets_operand_of_fits hop (Nat.le_trans (Nat.min_le_left _ _) hrightPlace) hright
        (hkeepsRight hsoundRight rightText hrightText))

theorem keeps_compare {left : Expr} {ops : List CompareOp} {comparators : List Expr}
    (hlength : comparators.length = ops.length) (hne : ops ≠ [])
    (hsound : (Expr.compare left ops comparators).sound around = true)
    (hkeepsLeft : left.sound around = true → left.Keeps around)
    (hkeeps : ∀ comparator ∈ comparators, comparator.sound around = true →
      comparator.Keeps around) :
    (Expr.compare left ops comparators).Keeps around := by
  simp only [Expr.sound, Expr.soundAll_eq_all, Bool.and_eq_true, List.all_eq_true] at hsound
  obtain ⟨⟨hfits, hsoundLeft⟩, hsound⟩ := hsound
  obtain ⟨hleft, hcomparators⟩ := List.forall_mem_cons.mp hfits
  intro text hrender
  cases ops with
  | nil => exact absurd rfl hne
  | cons op ops =>
      obtain ⟨leftText, links, hleftText, hlinks, rfl⟩ := Expr.exists_parts_of_compare hrender
      have hsets := sets_of_renderLinks hlength hcomparators
        (fun comparator hmem => hkeeps comparator hmem (hsound comparator hmem)) hlinks
      have hshown : ((op :: ops).map CompareOp.shown).length =
          (Expr.unconvertedAll around comparators).length := by
        rw [Expr.unconvertedAll_eq_map, List.length_map, List.length_map, hlength]
      have hzip : ((op :: ops).map CompareOp.shown).zip
          (Expr.unconvertedAll around comparators) ≠ [] := by
        refine List.ne_nil_of_length_pos ?_
        rw [List.length_zip, ← hshown]
        simp
      have hop : Operator.compare op ≠ .binary .div := by simp
      have hchain := Sets.chain (sets_operand_of_fits hop (by decide) hleft
        (hkeepsLeft hsoundLeft leftText hleftText)) hsets hzip
      rw [List.map_fst_zip hshown.le, List.map_snd_zip hshown.ge, List.map_map] at hchain
      exact hchain

theorem keeps_call {func : Expr} {args : List Expr} (h : func.Formulaic around)
    (hsound : (Expr.call func args).sound around = true)
    (hkeepsFunc : func.sound around = true → func.Keeps around)
    (hkeeps : ∀ arg ∈ args, arg.sound around = true → arg.Keeps around) :
    (Expr.call func args).Keeps around := by
  simp only [Expr.sound, Expr.soundAll_eq_all, Bool.and_eq_true, List.all_eq_true,
    Bool.not_eq_true'] at hsound
  obtain ⟨⟨⟨⟨hprose, hfits⟩, hstep⟩, hsoundFunc⟩, hsound⟩ := hsound
  intro text hrender
  obtain ⟨funcText, texts, hfuncText, htexts, hcall⟩ := Expr.exists_parts_of_call hrender
  have hatom := sets_atom (func.grip_le_atom around) (Expr.le_grip hfits)
    (hkeepsFunc hsoundFunc funcText hfuncText)
  have hword : isWordy (Target.atom (.pseudocode none) func funcText) = true →
      func.unconverted around = .name (Target.atom (.pseudocode none) func funcText) ∧
        Expr.hasArrow around (Target.atom (.pseudocode none) func funcText) = false := by
    intro hwordy
    have hplain := atom_eq_of_isWordy hwordy
    rw [hplain] at hwordy ⊢
    exact h.unconverted_of_isWordy hfuncText hwordy
  have hname : ∀ ident, func.unconverted around = .name ident →
      Target.atom (.pseudocode none) func funcText = Pseudocode.name around ident false := by
    intro ident hshown
    obtain ⟨hspelled, hstrength⟩ := h.render_of_name hshown
    rw [Target.atom, if_neg (Nat.not_lt.mpr hstrength)]
    exact Except.ok.inj (hfuncText.symm.trans hspelled)
  have hnotProse : Pseudocode.isSentence (Target.atom (.pseudocode none) func funcText) = false := by
    rw [isSentence_atom, h.isSentence_eq hfuncText, hprose]
  have hargs := formulates_of_renderAll (fun arg harg => hkeeps arg harg (hsound arg harg)) htexts
  exact formulates_call hatom hword hname hnotProse hstep hargs hcall

theorem keeps_vector {args : List Expr} (hlength : args.length ≠ 1)
    (harrow : Expr.hasArrow around "Vector2D" = false)
    (hkeeps : ∀ arg ∈ args, arg.Keeps around) :
    (Expr.call (.name "Vector2D") args).Keeps around := by
  intro text hrender
  obtain ⟨callee, texts, hcallee, htexts, hcall⟩ := Expr.exists_parts_of_call hrender
  obtain rfl : Pseudocode.name around "Vector2D" false = callee := Except.ok.inj hcallee
  rw [name_eq_self (by decide) harrow] at hcall
  obtain rfl := Option.some.inj hcall
  have hsets := forall₂_sets (formulates_of_renderAll hkeeps htexts)
  exact formulates_of_atom (.vector hsets (by simpa [Expr.unconvertedAll_eq_map] using hlength))

/-- The formula of a sound expression shows what the expression shows. -/
theorem keeps (h : expr.Formulaic around) (hsound : expr.sound around = true) :
    expr.Keeps around := by
  induction h with
  | @name ident hword hplain _ =>
      intro text hrender
      obtain rfl : Pseudocode.name around ident false = text := Except.ok.inj hrender
      exact sets_name around hword hplain
  | member hvalue hword ih => exact keeps_member hvalue hword hsound ih
  | @unary op operand _ ih =>
      rw [Expr.sound, Bool.and_eq_true] at hsound
      obtain ⟨hfits, hsound⟩ := hsound
      intro text hrender
      obtain ⟨operandText, hoperand, rfl⟩ := Expr.exists_parts_of_unary hrender
      have hplace : (Operator.unary op).strength ≤ Strength.atom := Operator.strength_le_atom _
      exact sets_unary op
        (sets_operand_of_fits (by simp) hplace hfits (ih hsound operandText hoperand))
  | binary hxor _ _ ih₁ ih₂ => exact keeps_binary hxor hsound ih₁ ih₂
  | @bool op values hlength _ ih =>
      simp only [Expr.sound, Expr.soundAll_eq_all, Bool.and_eq_true, List.all_eq_true] at hsound
      obtain ⟨hfits, hsound⟩ := hsound
      intro text hrender
      obtain ⟨texts, htexts, rfl⟩ := Expr.exists_parts_of_bool hrender
      have hplace : (Operator.bool op).strength + 1 ≤ Strength.atom := by cases op <;> decide
      have hkeeps : ∀ value ∈ values, value.Keeps around :=
        fun value hvalue => ih value hvalue (hsound value hvalue)
      exact sets_bool op (sets_of_renderOperands (by simp) hplace hfits hkeeps htexts)
        (by simpa [Expr.unconvertedAll_eq_map] using hlength)
  | compare hlength hne _ _ ih₁ ih₂ => exact keeps_compare hlength hne hsound ih₁ ih₂
  | call hfunc _ ih ihargs => exact keeps_call hfunc hsound ih ihargs
  | @vector args hlength _ harrow ihargs =>
      simp only [Expr.sound, Expr.soundAll_eq_all, Bool.and_eq_true, List.all_eq_true] at hsound
      exact keeps_vector hlength harrow fun arg harg => ihargs arg harg (hsound.2 arg harg)
  | @subscript value index _ hindex ih₁ ih₂ =>
      simp only [Expr.sound, Bool.and_eq_true] at hsound
      obtain ⟨⟨hfits, hsoundValue⟩, hsoundIndex⟩ := hsound
      intro text hrender
      obtain ⟨valueText, indexText, hvalueText, hindexText, rfl⟩ :=
        Expr.exists_parts_of_subscript hindex.ne_slice hrender
      have hatom := sets_atom (value.grip_le_atom around) (Expr.le_grip hfits)
        (ih₁ hsoundValue valueText hvalueText)
      exact hatom.subscript (sets_of_formulates (ih₂ hsoundIndex indexText hindexText))

end Expr.Formulaic

/-! ### Calls that are taken for sentences -/

theorem read?_eq_none_of_dollar {text : String} (h : '$' ∈ text.toList) : Latex.read? text = none := by
  have hnone : tokens? signs text.toList = none := by
    cases htokens : tokens? signs text.toList with
    | none => rfl
    | some tokens =>
        have hsigns : ∀ sign ∈ signs, '$' ∉ sign.toList := by decide +kernel
        rcases mem_of_tokens?_eq_some (by decide) htokens '$' h with
          hblank | hword | ⟨sign, hsign, hmem⟩
        · exact absurd hblank (by decide)
        · exact absurd hword (by decide)
        · exact absurd hmem (hsigns sign hsign)
  rw [Latex.read?, hnone]
  rfl

theorem call?_of_isSentence {callee : String} (h : Pseudocode.isSentence callee = true)
    (texts : List String) :
    Pseudocode.call? callee texts = some (Pseudocode.plainCall callee texts) := by
  rw [Pseudocode.call?.eq_def]
  split <;> first | rfl | exact absurd h (by decide)

/-- A call whose callee is prose shows the callee alone, or it is no formula. -/
theorem Expr.Formulaic.read?_call_ne {around : Surroundings} {func : Expr} {args : List Expr}
    {text : String} (h : func.Formulaic around) (hsound : func.sound around = true)
    (hfits : func.fits around Strength.atom Strength.atom = true)
    (hprose : func.isProse around = true)
    (hrender : (Expr.call func args).render (.pseudocode none) around false = .ok text) :
    Latex.read? text ≠ some ((Expr.call func args).unconverted around) := by
  obtain ⟨funcText, texts, hfuncText, htexts, hcall⟩ := Expr.exists_parts_of_call hrender
  have hsentence : Pseudocode.isSentence (Target.atom (.pseudocode none) func funcText) = true := by
    rw [isSentence_atom, h.isSentence_eq hfuncText, hprose]
  obtain rfl := Option.some.inj ((call?_of_isSentence hsentence texts).symm.trans hcall)
  cases texts with
  | nil =>
      obtain rfl : args = [] := List.length_eq_zero_iff.mp (length_of_renderAll htexts).symm
      have hatom := sets_atom (func.grip_le_atom around) (Expr.le_grip hfits)
        (h.keeps hsound funcText hfuncText)
      have hread := (hatom.antitone (Nat.zero_le _) (Nat.le_refl _)).read?_eq
      have htext : Pseudocode.plainCall (Target.atom (.pseudocode none) func funcText) [] =
          Target.atom (.pseudocode none) func funcText := by
        rw [Pseudocode.plainCall, if_pos hsentence]
        rfl
      have hshown : (Expr.call func []).unconverted around = .call (func.unconverted around) [] := by
        rw [Expr.unconverted, Expr.unconvertedAll, Expr.applied.eq_def]
        split
        · next hargs => cases hargs
        · rfl
      rw [htext, hread, hshown]
      intro heq
      have hsize := congrArg sizeOf (Option.some.inj heq)
      rw [Expr.call.sizeOf_spec] at hsize
      omega
  | cons first rest =>
      have hdollar : '$' ∈ (Pseudocode.plainCall (Target.atom (.pseudocode none) func funcText)
          (first :: rest)).toList := by
        rw [Pseudocode.plainCall, if_pos hsentence]
        simp [Pseudocode.math]
      rw [read?_eq_none_of_dollar hdollar]
      exact (Option.some_ne_none _).symm

/-- **Formulas keep their meaning.** The formula that pseudocode without a subject makes of a sound
expression is read as what the expression shows: the expression with what they convert for the
conversions to whole numbers and with equality for identity. A call of prose is never read so. -/
theorem read?_formula {around : Surroundings} {expr : Expr} {text : String}
    (h : expr.Formulaic around) (hrender : expr.render (.pseudocode none) around false = .ok text) :
    (expr.sound around = true → Latex.read? text = some (expr.unconverted around)) ∧
      ∀ func args, expr = .call func args → func.sound around = true →
        func.fits around Strength.atom Strength.atom = true → func.isProse around = true →
        Latex.read? text ≠ some (expr.unconverted around) := by
  refine ⟨fun hsound => ?_, ?_⟩
  · have hformulates : expr.Formulates around text := h.keeps hsound text hrender
    exact (sets_of_formulates hformulates).read?_eq
  · rintro func args rfl hsound hfits hprose
    cases h with
    | call hfunc hargs => exact hfunc.read?_call_ne hsound hfits hprose hrender
    | vector hlength hargs harrow => cases hprose

/-- A chain of comparisons, `-a ** int(b) <= min / (x + y) is not round(x.y)[i]`, and the call
`(x + y).norm()`. -/
theorem read?_formula_chain :
    let power := Expr.unary .minus (.binary (.name "a") .pow (.call (.name "int") [.name "b"]))
    let sum := Expr.binary (.name "x") .add (.name "y")
    let rounded := Expr.call (.name "round") [.member (.name "x") "y"]
    let chain := Expr.compare power [.lessEqual, .isNot]
      [.binary (.name "min") .div sum, .subscript rounded (.name "i")]
    let norm := Expr.member sum "norm"
    let text :=
      "-a ^ b \\leq \\frac\x7b\\min\x7d\x7bx + y\x7d \\neq \\lfloor x.y \\rceil[i]"
    chain.render (.pseudocode none) .outermost false = .ok text ∧
      chain.sound .outermost = true ∧
      Latex.read? text = some (chain.unconverted .outermost) ∧
      (Expr.call norm []).render (.pseudocode none) .outermost false =
        .ok "\\left(x + y\\right).norm" ∧
      norm.isProse .outermost = true ∧
      Latex.read? "\\left(x + y\\right).norm" ≠
        some ((Expr.call norm []).unconverted .outermost) := by
  intro power sum rounded chain norm text
  have hname : ∀ ident ∈ ["a", "b", "x", "y", "i", "min", "int", "round"],
      (Expr.name ident).Formulaic .outermost := by
    intro ident hident
    simp only [List.mem_cons, List.not_mem_nil, or_false] at hident
    rcases hident with rfl | rfl | rfl | rfl | rfl | rfl | rfl | rfl <;>
      exact .name ⟨_, _, rfl, rfl, rfl⟩ (by decide) (by decide)
  have hsum : sum.Formulaic .outermost :=
    .binary (by decide) (hname "x" (by decide)) (hname "y" (by decide))
  have hpower : power.Formulaic .outermost := by
    refine .unary .minus (.binary (by decide) (hname "a" (by decide)) ?_)
    exact .call (hname "int" (by decide)) (by simpa using hname "b" (by decide))
  have hquotient : (Expr.binary (.name "min") .div sum).Formulaic .outermost :=
    .binary (by decide) (hname "min" (by decide)) hsum
  have hrounded : rounded.Formulaic .outermost := by
    refine .call (hname "round" (by decide)) ?_
    simpa using Expr.Formulaic.member (hname "x" (by decide)) ⟨'y', _, rfl, rfl, rfl⟩
  have hchain : chain.Formulaic .outermost := by
    refine .compare rfl (by decide) hpower ?_
    simpa [hquotient] using Expr.Formulaic.subscript hrounded (hname "i" (by decide))
  have hnorm : norm.Formulaic .outermost := .member hsum ⟨'n', _, rfl, rfl, rfl⟩
  have hrender : chain.render (.pseudocode none) .outermost false = .ok text := rfl
  have hsound : chain.sound .outermost = true := by decide
  have hcall : (Expr.call (.member (.binary (.name "x") .add (.name "y")) "norm") []).render
      (.pseudocode none) .outermost false = .ok "\\left(x + y\\right).norm" := rfl
  have hprose : norm.isProse .outermost = true := by decide
  have hread := (read?_formula (.call hnorm (by simp)) hcall).2 norm [] rfl (by decide) (by decide)
    hprose
  exact ⟨hrender, hsound, (read?_formula hchain hrender).1 hsound, hcall, hprose, hread⟩

/-- Identity has the sign of equality, and a vector of one item is a group. -/
example :
    (Expr.compare (.name "a") [.is] [.name "b"]).render (.pseudocode none) .outermost false =
        .ok "a = b" ∧
      (Expr.call (.name "Vector2D") [.name "a"]).render (.pseudocode none) .outermost false =
        .ok "\\left(a\\right)" := ⟨rfl, rfl⟩

/-- A conversion and an interval with a step lose the operand that stands after them or take it in,
and a callee with a blank is taken for a sentence. -/
theorem formulas_lose_meaning :
    let a := Expr.name "a"
    let b := Expr.name "b"
    let c := Expr.name "c"
    let sum := Expr.binary a .add b
    let product := Expr.binary (.call (.name "int") [sum]) .mult c
    let shifted := Expr.binary (.call (.name "range") [a, b, c]) .add c
    let norm := Expr.call (.member sum "norm") []
    let applied := Expr.call (.call (.name "f") [a, b]) [c]
    (product.render (.pseudocode none) .outermost false = .ok "a + b \\cdot c" ∧
      Latex.read? "a + b \\cdot c" = some (.binary a .add (.binary b .mult c))) ∧
    (shifted.render (.pseudocode none) .outermost false =
        .ok "[a, b) \\text\x7b by \x7d c + c" ∧
      Latex.read? "[a, b) \\text\x7b by \x7d c + c" =
        some (.call (.name "range") [a, b, .binary c .add c])) ∧
    (norm.render (.pseudocode none) .outermost false = .ok "\\left(a + b\\right).norm" ∧
      Latex.read? "\\left(a + b\\right).norm" = some (.member sum "norm")) ∧
    (applied.render (.pseudocode none) .outermost false = .ok "f\\left(a, b\\right) $c$" ∧
      Latex.read? "f\\left(a, b\\right) $c$" = none) := by
  have hname : ∀ ident ∈ ["a", "b", "c"], ∀ level ≤ Strength.atom,
      Sets level ident (.name ident) := by
    intro ident hident level hlevel
    have hword : IsWord ident := by
      simp only [List.mem_cons, List.not_mem_nil, or_false] at hident
      rcases hident with rfl | rfl | rfl <;> exact ⟨_, [], rfl, rfl, rfl⟩
    exact (Sets.word hword).antitone hlevel (Nat.le_refl _)
  have hc : ∀ level ≤ Strength.atom, Sets level "c" (.name "c") := hname "c" (by decide)
  have hsum : Sets 9 ("c" ++ (" " ++ "+" ++ " ") ++ "c") (.binary (.name "c") .add (.name "c")) :=
    sets_left (by decide) rfl rfl (hc 9 (by decide)) (hc 10 (by decide))
  have hshifted : Latex.read? "[a, b) \\text\x7b by \x7d c + c" = some (.call (.name "range")
      [.name "a", .name "b", .binary (.name "c") .add (.name "c")]) :=
    (Sets.stepped_interval (hname "a" (by decide) 0 (by decide))
      (hname "b" (by decide) 0 (by decide)) (hsum.antitone (by decide) (by decide))).read?_eq
  exact ⟨⟨rfl, by cbv⟩, ⟨rfl, hshifted⟩, ⟨rfl, by cbv⟩, ⟨rfl, by cbv⟩⟩

end Snippet
