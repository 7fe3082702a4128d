import Snippet.Proofs.Latex.Reader
import Snippet.Proofs.Latex.Shown

/-!
# Formulas that are taken for prose

A call whose callee has a blank in its text is taken for a sentence. Which formulas have a blank can
be told from the tree: all but names and what is put together without one. Only a callee that is a
name is spelled as one, so that the calls with brackets of their own can be told, too.
-/

namespace Snippet

open Formula Latex Render
open Pseudocode (isSentence)

namespace Expr

section Prose

variable (around : Surroundings)

/-- The functions whose calls are brackets with blanks in them. -/
def bracketNames : List String := ["round", "floor", "ceil", "range"]

def isBracket (func : Expr) : Bool :=
  match func.unconverted around with
  | .name ident => bracketNames.contains ident && !hasArrow around ident
  | _ => false

mutual

/-- Whether there is a blank in the formula of an expression. -/
def isProse : Expr → Bool
  | .member value _ => value.isProse
  | .unary op operand => op == .not || operand.isProse
  | .binary left .div right => left.isProse || right.isProse
  | .binary _ _ _ => true
  | .bool _ _ => true
  | .compare _ _ _ => true
  | .call func args =>
    isBracket around func || func.isProse || decide (1 < args.length) || anyProse args
  | .subscript value index => value.isProse || index.isProse
  | _ => false

def anyProse : List Expr → Bool
  | [] => false
  | expr :: rest => expr.isProse || anyProse rest

end

end Prose

end Expr

/-! ### Blanks -/

@[simp] theorem isSentence_append (first second : String) :
    isSentence (first ++ second) = (isSentence first || isSentence second) := by
  simp [isSentence]

theorem isSentence_intercalate {mark : String} (hmark : isSentence mark = true)
    (texts : List String) :
    isSentence (mark.intercalate texts) =
      (decide (1 < texts.length) || texts.any isSentence) := by
  induction texts with
  | nil => rfl
  | cons first rest ih =>
      cases rest with
      | nil => simp
      | cons second others =>
          rw [String.intercalate_cons_of_ne_nil (List.cons_ne_nil _ _)]
          simp [hmark]

theorem isSentence_commaList (texts : List String) :
    isSentence (commaList texts) = (decide (1 < texts.length) || texts.any isSentence) :=
  isSentence_intercalate (by decide) texts

@[simp] theorem isSentence_group (text : String) :
    isSentence (Pseudocode.group text) = isSentence text := by
  have hopen : isSentence "\\left(" = false := by decide
  have hclose : isSentence "\\right)" = false := by decide
  rw [Pseudocode.group, isSentence_append, isSentence_append, hopen, hclose, Bool.false_or,
    Bool.or_false]

@[simp] theorem isSentence_atom (expr : Expr) (text : String) :
    isSentence (Target.atom (.pseudocode none) expr text) = isSentence text := by
  rw [Target.atom]
  split
  · exact isSentence_group text
  · rfl

@[simp] theorem isSentence_operand (op : Operator) (least : Nat) (expr : Expr) (text : String) :
    isSentence (Target.operand (.pseudocode none) op least expr text) = isSentence text := by
  rw [Target.operand]
  split
  · exact isSentence_group text
  · rfl

theorem isSentence_word {ident : String} (h : IsWord ident) : isSentence ident = false := by
  obtain ⟨c, more, htext, hstart, hmore⟩ := h
  have hblank : ' ' ∉ c :: more := by
    rw [List.mem_cons]
    rintro (rfl | hmem)
    · cases hstart
    · exact absurd (List.all_eq_true.mp hmore _ hmem) (by decide)
  rw [isSentence, htext]
  simpa using hblank

/-! ### Words -/

/-- The characters of names. -/
def isWordy (text : String) : Bool := text.toList.all fun c => c.isAlphanum || c == '_'

@[simp] theorem isWordy_append (first second : String) :
    isWordy (first ++ second) = (isWordy first && isWordy second) := by
  simp [isWordy]

theorem not_isWordy_of_isSentence {text : String} (h : isSentence text = true) :
    isWordy text = false := by
  have hmem : ' ' ∈ text.toList := by simpa [isSentence] using h
  refine Bool.eq_false_iff.mpr fun hwordy => ?_
  exact absurd (List.all_eq_true.mp hwordy _ hmem) (by decide)

theorem not_isWordy_group (text : String) : isWordy (Pseudocode.group text) = false := by
  have hopen : isWordy "\\left(" = false := by decide
  simp [Pseudocode.group, hopen]

theorem not_isWordy_plainCall (func : String) (texts : List String) :
    isWordy (Pseudocode.plainCall func texts) = false := by
  rw [Pseudocode.plainCall]
  split
  · next hsentence => split <;> exact not_isWordy_of_isSentence (by simp [hsentence])
  · rw [isWordy_append, not_isWordy_group, Bool.and_false]

theorem atom_eq_of_isWordy {expr : Expr} {text : String}
    (h : isWordy (Target.atom (.pseudocode none) expr text) = true) :
    Target.atom (.pseudocode none) expr text = text := by
  rw [Target.atom] at h ⊢
  split at h
  · cases h.symm.trans (not_isWordy_group text)
  · next htight => rw [if_neg htight]

/-- What is written for a call has a blank if the callee or an argument has one, if there are more
arguments, or if it is a bracket with blanks. Only a conversion can be a word. -/
structure WritesCall (callee : String) (texts : List String) (text : String) : Prop where
  isSentence_eq : isSentence text = (Expr.bracketNames.contains callee || isSentence callee ||
    decide (1 < texts.length) || texts.any isSentence)
  converts : isWordy text = true → callee = "int" ∧ texts = [text]

namespace WritesCall

variable {callee text : String} {texts : List String}

theorem of_plainCall (hcallee : Expr.bracketNames.contains callee = false) :
    WritesCall callee texts (Pseudocode.plainCall callee texts) where
  isSentence_eq := by
    rw [Pseudocode.plainCall, hcallee, Bool.false_or, Bool.or_assoc, ← isSentence_commaList]
    cases hsentence : isSentence callee with
    | true => cases hempty : texts.isEmpty <;> simp [hsentence]
    | false => simp [hsentence]
  converts hwordy := nomatch hwordy.symm.trans (not_isWordy_plainCall callee texts)

theorem of_bracket (hcallee : Expr.bracketNames.contains callee = true)
    (htext : isSentence text = true) : WritesCall callee texts text where
  isSentence_eq := by simp only [htext, hcallee, Bool.true_or]
  converts hwordy := nomatch hwordy.symm.trans (not_isWordy_of_isSentence htext)

theorem of_call?_eq_some (h : Pseudocode.call? callee texts = some text) :
    WritesCall callee texts text := by
  have hsides : isSentence "\\lfloor " = true ∧ isSentence "\\lceil " = true ∧
      isSentence "[0, " = true ∧ isSentence ", " = true := by decide
  obtain ⟨hfloorSide, hceilSide, hzero, hcomma⟩ := hsides
  rw [Pseudocode.call?.eq_def] at h
  split at h
  · split at h
    · next value =>
        obtain rfl := Option.some.inj h
        have hint : (Expr.bracketNames.contains "int" || isSentence "int") = false := by decide
        refine ⟨?_, fun _ => ⟨rfl, rfl⟩⟩
        rw [hint]
        simp
    · obtain rfl := Option.some.inj h
      exact of_plainCall (by decide)
  · obtain rfl := Option.some.inj h
    exact of_bracket (by decide) (by simp only [isSentence_append, hfloorSide, Bool.true_or])
  · obtain rfl := Option.some.inj h
    exact of_bracket (by decide) (by simp only [isSentence_append, hfloorSide, Bool.true_or])
  · obtain rfl := Option.some.inj h
    exact of_bracket (by decide) (by simp only [isSentence_append, hceilSide, Bool.true_or])
  · refine of_bracket (by decide) ?_
    rw [Pseudocode.interval?.eq_def] at h
    split at h
    · obtain rfl := Option.some.inj h
      simp only [isSentence_append, hzero, Bool.true_or]
    · obtain rfl := Option.some.inj h
      simp only [isSentence_append, hcomma, Bool.true_or, Bool.or_true]
    · obtain rfl := Option.some.inj h
      simp only [isSentence_append, hcomma, Bool.true_or, Bool.or_true]
    · cases h
  · obtain rfl := Option.some.inj h
    have hvector : (Expr.bracketNames.contains "Vector2D" || isSentence "Vector2D") = false := by
      decide
    refine ⟨?_, fun hwordy => nomatch hwordy.symm.trans (not_isWordy_group _)⟩
    rw [isSentence_group, isSentence_commaList, hvector, Bool.false_or]
  · next hround hfloor hceil hrange _ =>
      obtain rfl := Option.some.inj h
      refine of_plainCall (Bool.eq_false_iff.mpr fun hmem => ?_)
      have hnames : callee = "round" ∨ callee = "floor" ∨ callee = "ceil" ∨ callee = "range" := by
        simpa [Expr.bracketNames] using hmem
      rcases hnames with hname | hname | hname | hname
      · exact hround hname
      · exact hfloor hname
      · exact hceil hname
      · exact hrange hname

end WritesCall

/-! ### Expressions -/

section Expressions

variable {around : Surroundings} {expr func : Expr} {exprs : List Expr} {text : String}
  {texts : List String}

theorem isSentence_spaced (op : Operator) (h : 2 ≤ texts.length) :
    isSentence ((" " ++ Pseudocode.operator op ++ " ").intercalate texts) = true := by
  have hblank : isSentence " " = true := by decide
  rw [isSentence_intercalate (by simp [hblank])]
  simp [Nat.lt_of_succ_le h]

theorem isSentence_infixed {op : Operator} (hop : op ≠ .binary .div) (h : 2 ≤ texts.length) :
    isSentence (Pseudocode.infixed op texts) = true := by
  rw [Pseudocode.infixed.eq_def]
  split
  · exact absurd rfl hop
  · exact isSentence_spaced _ h

theorem length_of_renderOperands {target : Target} {asType : Bool} {op : Operator} {least : Nat}
    (h : Expr.renderOperands target around asType op least exprs = .ok texts) :
    texts.length = exprs.length := by
  induction exprs generalizing texts with
  | nil =>
      obtain rfl : [] = texts := by simpa [Expr.renderOperands] using h
      rfl
  | cons expr rest ih =>
      rw [Expr.renderOperands] at h
      obtain ⟨text, -, h⟩ := exists_of_bind_eq_ok h
      obtain ⟨others, hothers, h⟩ := exists_of_bind_eq_ok h
      obtain rfl := Except.ok.inj h
      simp [ih hothers]

theorem isSentence_compare (left : String) {rest : List (Operator × String)} (h : rest ≠ []) :
    isSentence (Pseudocode.compare left rest) = true := by
  have hblank : isSentence " " = true := by decide
  cases rest with
  | nil => exact absurd rfl h
  | cons link others => simp [Pseudocode.compare, hblank]

theorem renderLinks_ne_nil {target : Target} {asType : Bool} {op : CompareOp}
    {ops : List CompareOp} {rest : List (Operator × String)}
    (hlength : exprs.length = (op :: ops).length)
    (h : Expr.renderLinks target around asType (op :: ops) exprs = .ok rest) : rest ≠ [] := by
  cases exprs with
  | nil => cases hlength
  | cons expr others =>
      rw [Expr.renderLinks] at h
      obtain ⟨text, -, h⟩ := exists_of_bind_eq_ok h
      obtain ⟨links, -, h⟩ := exists_of_bind_eq_ok h
      obtain rfl := Except.ok.inj h
      exact List.cons_ne_nil _ _

theorem not_isWordy_unary (op : UnaryOp) (text : String) :
    isWordy (Pseudocode.unary op text) = false := by
  have hsign : isWordy (Pseudocode.operator (.unary op)) = false := by cases op <;> decide
  have hnot : isWordy "\\neg " = false := by decide
  cases op <;> simp_all [Pseudocode.unary]

theorem not_isWordy_infixed (op : Operator) (h : 2 ≤ texts.length) :
    isWordy (Pseudocode.infixed op texts) = false := by
  have hfraction : isWordy "\\frac\x7b" = false := by decide
  rw [Pseudocode.infixed.eq_def]
  split
  · simp [hfraction]
  · exact not_isWordy_of_isSentence (isSentence_spaced _ h)

theorem mathMember_eq (object attr : String) :
    Pseudocode.member none object attr =
      if object = "math" then "\\" ++ attr else object ++ "." ++ attr := by
  simp [Pseudocode.member]

theorem not_isWordy_member (object attr : String) :
    isWordy (Pseudocode.member none object attr) = false := by
  have hslash : isWordy "\\" = false := by decide
  have hdot : isWordy "." = false := by decide
  rw [mathMember_eq]
  split <;> simp [hslash, hdot]

theorem isSentence_member (object : String) {attr : String} (h : IsWord attr) :
    isSentence (Pseudocode.member none object attr) = isSentence object := by
  have hslash : isSentence "\\" = false := by decide
  have hdot : isSentence "." = false := by decide
  rw [mathMember_eq]
  split
  · next hmath =>
      rw [hmath, isSentence_append, hslash, isSentence_word h]
      decide
  · rw [isSentence_append, isSentence_append, hdot, isSentence_word h, Bool.or_false, Bool.or_false]

/-- A name that is written as a word is written as it is. -/
theorem name_of_isWordy {ident : String} (hplain : '_' ∉ ident.toList)
    (hwordy : isWordy (Pseudocode.name around ident false) = true) :
    Pseudocode.name around ident false = ident ∧ Expr.hasArrow around ident = false := by
  have harrow : isWordy "\\vec\x7b" = false := by decide
  have hslash : isWordy "\\" = false := by decide
  have hnone : Expr.hasArrow around ident = false := by
    refine Bool.eq_false_iff.mpr fun hdeclared => ?_
    rw [Expr.hasArrow] at hdeclared
    rw [Pseudocode.name, if_pos hdeclared] at hwordy
    simp [harrow] at hwordy
  refine ⟨?_, hnone⟩
  rw [name_of_no_arrow hnone, symbol_of_plain hplain] at hwordy ⊢
  split at hwordy
  · simp [hslash] at hwordy
  · next hsymbol => rw [if_neg hsymbol]

/-- A call that is written as a word is a conversion. -/
theorem WritesCall.eq_int {funcText : String} {texts : List String}
    (h : WritesCall (Target.atom (.pseudocode none) func funcText) texts text)
    (hwordy : isWordy text = true) : funcText = "int" ∧ texts = [text] := by
  obtain ⟨hcallee, htexts⟩ := h.converts hwordy
  have hatom : isWordy (Target.atom (.pseudocode none) func funcText) = true := by
    rw [hcallee]
    decide
  exact ⟨(atom_eq_of_isWordy hatom).symm.trans hcallee, htexts⟩

/-- What is written as a word shows that name. -/
theorem Expr.Formulaic.unconverted_of_isWordy (h : expr.Formulaic around)
    (hrender : expr.render (.pseudocode none) around false = .ok text)
    (hwordy : isWordy text = true) :
    expr.unconverted around = .name text ∧ Expr.hasArrow around text = false := by
  induction h generalizing text with
  | @name ident hword hplain _ =>
      obtain rfl : Pseudocode.name around ident false = text := Except.ok.inj hrender
      obtain ⟨htext, hnone⟩ := name_of_isWordy hplain hwordy
      rw [htext]
      exact ⟨rfl, hnone⟩
  | @member value attr _ _ _ =>
      obtain ⟨object, -, rfl⟩ := Expr.exists_parts_of_member hrender
      cases hwordy.symm.trans (not_isWordy_member _ attr)
  | @unary op operand _ _ =>
      obtain ⟨operandText, -, rfl⟩ := Expr.exists_parts_of_unary hrender
      cases hwordy.symm.trans (not_isWordy_unary op _)
  | @binary left right op _ _ _ _ _ =>
      obtain ⟨leftText, rightText, -, -, rfl⟩ := Expr.exists_parts_of_binary hrender
      cases hwordy.symm.trans (not_isWordy_infixed (.binary op) (by simp))
  | @bool op values hlength _ _ =>
      obtain ⟨texts, htexts, rfl⟩ := Expr.exists_parts_of_bool hrender
      have htwo : 2 ≤ texts.length := (length_of_renderOperands htexts).symm ▸ hlength
      cases hwordy.symm.trans (not_isWordy_infixed (.bool op) htwo)
  | @compare left ops comparators hlength hne _ _ _ _ =>
      cases ops with
      | nil => exact absurd rfl hne
      | cons op ops =>
          obtain ⟨leftText, links, -, hlinks, rfl⟩ := Expr.exists_parts_of_compare hrender
          have hsentence := isSentence_compare (Target.operand (.pseudocode none) (.compare op)
            (Strength.comparison + 1) left leftText) (renderLinks_ne_nil hlength hlinks)
          cases hwordy.symm.trans (not_isWordy_of_isSentence hsentence)
  | @call func args _ _ ih ihargs =>
      obtain ⟨funcText, texts, hfuncText, htexts, hcall⟩ := Expr.exists_parts_of_call hrender
      obtain ⟨rfl, rfl⟩ := (WritesCall.of_call?_eq_some hcall).eq_int hwordy
      obtain ⟨hfunc, harrow⟩ := ih hfuncText (by decide)
      obtain ⟨value, rfl⟩ := List.length_eq_one_iff.mp (length_of_renderAll htexts).symm
      rw [Expr.renderAll] at htexts
      obtain ⟨valueText, hvalueText, htexts⟩ := exists_of_bind_eq_ok htexts
      obtain rfl : valueText = text := by simpa [Expr.renderAll] using Except.ok.inj htexts
      obtain ⟨hvalue, hnone⟩ := ihargs value List.mem_cons_self hvalueText hwordy
      refine ⟨?_, hnone⟩
      rw [Expr.unconverted, hfunc, Expr.unconvertedAll_eq_map, List.map_singleton, hvalue,
        Expr.applied, if_neg (by simp [harrow])]
  | @vector args _ _ harrow _ =>
      obtain ⟨callee, texts, hcallee, -, hcall⟩ := Expr.exists_parts_of_call hrender
      obtain rfl : Pseudocode.name around "Vector2D" false = callee := Except.ok.inj hcallee
      have hint := ((WritesCall.of_call?_eq_some hcall).eq_int hwordy).1
      exact absurd ((name_eq_self (by decide) harrow).symm.trans hint) (by decide)
  | @subscript value index _ hindex _ _ =>
      obtain ⟨valueText, indexText, -, -, rfl⟩ :=
        Expr.exists_parts_of_subscript hindex.ne_slice hrender
      have hindexed : isWordy (Target.subscript
          (Target.atom (.pseudocode none) value valueText) indexText) = false := by
        have hbracket : isWordy "[" = false := by decide
        simp [Target.subscript, hbracket]
      cases hwordy.symm.trans hindexed

theorem isSentence_name {ident : String} (hword : IsWord ident) (hplain : '_' ∉ ident.toList) :
    isSentence (Pseudocode.name around ident false) = false := by
  have hmarks : isSentence "\\" = false ∧ isSentence "\\vec\x7b" = false ∧
      isSentence "\x7d" = false := by decide
  obtain ⟨hslash, harrow, hclose⟩ := hmarks
  have hsymbol : isSentence (Pseudocode.symbol ident) = false := by
    rw [symbol_of_plain hplain]
    split
    · rw [isSentence_append, hslash, isSentence_word hword]
      rfl
    · exact isSentence_word hword
  rw [Pseudocode.name]
  split
  · rw [isSentence_append, isSentence_append, harrow, hclose, Bool.false_or, Bool.or_false]
    exact hsymbol
  · exact hsymbol

theorem isSentence_unary (op : UnaryOp) (text : String) :
    isSentence (Pseudocode.unary op text) = (op == .not || isSentence text) := by
  have hnot : isSentence "\\neg " = true := by decide
  cases op with
  | not => rw [Pseudocode.unary, isSentence_append, hnot]; rfl
  | invert => exact isSentence_append "~" text
  | plus => exact isSentence_append "+" text
  | minus => exact isSentence_append "-" text

theorem isSentence_fraction (numerator denominator : String) :
    isSentence (Pseudocode.infixed (.binary .div) [numerator, denominator]) =
      (isSentence numerator || isSentence denominator) := by
  have hmarks : isSentence "\\frac\x7b" = false ∧ isSentence "\x7d\x7b" = false ∧
      isSentence "\x7d" = false := by decide
  obtain ⟨hopen, hbetween, hclose⟩ := hmarks
  simp only [Pseudocode.infixed, isSentence_append, hopen, hbetween, hclose, Bool.false_or,
    Bool.or_false]

theorem isSentence_subscript (value index : String) :
    isSentence (Target.subscript value index) = (isSentence value || isSentence index) := by
  have hmarks : isSentence "[" = false ∧ isSentence "]" = false := by decide
  simp only [Target.subscript, isSentence_append, hmarks.1, hmarks.2, Bool.or_false]

theorem bracketNames_contains_atom (h : func.Formulaic around)
    (hrender : func.render (.pseudocode none) around false = .ok text) :
    Expr.bracketNames.contains (Target.atom (.pseudocode none) func text) =
      func.isBracket around := by
  rw [Bool.eq_iff_iff]
  constructor
  · intro hmem
    have hwordy : isWordy (Target.atom (.pseudocode none) func text) = true := by
      have hnames : ∀ name ∈ Expr.bracketNames, isWordy name = true := by decide
      exact hnames _ (List.contains_iff_mem.mp hmem)
    rw [atom_eq_of_isWordy hwordy] at hmem hwordy
    obtain ⟨hname, harrow⟩ := h.unconverted_of_isWordy hrender hwordy
    rw [Expr.isBracket, hname]
    simp only [hmem, harrow, Bool.not_false, Bool.and_true]
  · intro hbracket
    rw [Expr.isBracket] at hbracket
    split at hbracket
    · next ident hname =>
        obtain ⟨hmem, harrow⟩ := Bool.and_eq_true_iff.mp hbracket
        obtain ⟨hspelled, htight⟩ := h.render_of_name hname
        obtain rfl := Except.ok.inj (hrender.symm.trans hspelled)
        have hsymbols : ∀ name ∈ Expr.bracketNames, Pseudocode.symbol name = name := by
          decide +kernel
        rw [Target.atom, if_neg (Nat.not_lt.mpr htight),
          name_eq_self (hsymbols ident (List.contains_iff_mem.mp hmem)) (by simpa using harrow)]
        exact hmem
    · cases hbracket

theorem any_isSentence (h : ∀ expr ∈ exprs, ∀ text,
      expr.render (.pseudocode none) around false = .ok text → isSentence text = expr.isProse around)
    (hrender : Expr.renderAll (.pseudocode none) around false exprs = .ok texts) :
    texts.any isSentence = Expr.anyProse around exprs := by
  induction exprs generalizing texts with
  | nil =>
      obtain rfl : [] = texts := by simpa [Expr.renderAll] using hrender
      rfl
  | cons expr rest ih =>
      rw [Expr.renderAll] at hrender
      obtain ⟨text, htext, hrender⟩ := exists_of_bind_eq_ok hrender
      obtain ⟨others, hothers, hrender⟩ := exists_of_bind_eq_ok hrender
      obtain rfl := Except.ok.inj hrender
      rw [List.any_cons, Expr.anyProse, h expr List.mem_cons_self text htext,
        ih (fun next hnext => h next (List.mem_cons_of_mem _ hnext)) hothers]

/-- What is written for an expression has a blank if the expression says so. -/
theorem Expr.Formulaic.isSentence_eq (h : expr.Formulaic around)
    (hrender : expr.render (.pseudocode none) around false = .ok text) :
    isSentence text = expr.isProse around := by
  induction h generalizing text with
  | @name ident hword hplain _ =>
      obtain rfl : Pseudocode.name around ident false = text := Except.ok.inj hrender
      exact isSentence_name hword hplain
  | @member value attr _ hword ih =>
      obtain ⟨object, hobject, rfl⟩ := Expr.exists_parts_of_member hrender
      rw [Target.member, isSentence_member _ hword, isSentence_atom, ih hobject, Expr.isProse]
  | @unary op operand _ ih =>
      obtain ⟨operandText, hoperand, rfl⟩ := Expr.exists_parts_of_unary hrender
      rw [Target.unary, isSentence_unary, isSentence_operand, ih hoperand, Expr.isProse]
  | @binary left right op _ _ _ ih₁ ih₂ =>
      obtain ⟨leftText, rightText, hleft, hright, rfl⟩ := Expr.exists_parts_of_binary hrender
      by_cases hdiv : op = .div
      · subst hdiv
        rw [Target.infixed, isSentence_fraction, isSentence_operand, isSentence_operand, ih₁ hleft,
          ih₂ hright, Expr.isProse]
      · have hprose : (Expr.binary left op right).isProse around = true := by
          cases op <;> first | rfl | contradiction
        rw [hprose]
        exact isSentence_infixed (by simpa using hdiv) (by simp)
  | @bool op values hlength _ _ =>
      obtain ⟨texts, htexts, rfl⟩ := Expr.exists_parts_of_bool hrender
      have htwo : 2 ≤ texts.length := (length_of_renderOperands htexts).symm ▸ hlength
      exact isSentence_infixed (by simp) htwo
  | @compare left ops comparators hlength hne _ _ _ _ =>
      cases ops with
      | nil => exact absurd rfl hne
      | cons op ops =>
          obtain ⟨leftText, links, -, hlinks, rfl⟩ := Expr.exists_parts_of_compare hrender
          exact isSentence_compare _ (renderLinks_ne_nil hlength hlinks)
  | @call func args hfunc _ ih ihargs =>
      obtain ⟨funcText, texts, hfuncText, htexts, hcall⟩ := Expr.exists_parts_of_call hrender
      rw [(WritesCall.of_call?_eq_some hcall).isSentence_eq,
        bracketNames_contains_atom hfunc hfuncText, isSentence_atom, ih hfuncText,
        length_of_renderAll htexts, any_isSentence ihargs htexts, Expr.isProse]
  | @vector args _ _ harrow ihargs =>
      obtain ⟨callee, texts, hcallee, htexts, hcall⟩ := Expr.exists_parts_of_call hrender
      obtain rfl : Pseudocode.name around "Vector2D" false = callee := Except.ok.inj hcallee
      have hcallee : (Expr.bracketNames.contains (Target.atom (.pseudocode none)
          (.name "Vector2D") (Pseudocode.name around "Vector2D" false)) ||
            isSentence (Pseudocode.name around "Vector2D" false)) =
          (Expr.isBracket around (.name "Vector2D") || (Expr.name "Vector2D").isProse around) := by
        rw [name_eq_self (by decide) harrow]
        rfl
      rw [(WritesCall.of_call?_eq_some hcall).isSentence_eq, isSentence_atom,
        length_of_renderAll htexts, any_isSentence ihargs htexts, Expr.isProse, hcallee]
  | @subscript value index _ hindex ih₁ ih₂ =>
      obtain ⟨valueText, indexText, hvalue, hindexText, rfl⟩ :=
        Expr.exists_parts_of_subscript hindex.ne_slice hrender
      rw [isSentence_subscript, isSentence_atom, ih₁ hvalue, ih₂ hindexText, Expr.isProse]

end Expressions

end Snippet
