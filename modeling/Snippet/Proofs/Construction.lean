import Mathlib
import Snippet.Proofs.Grouping
import Snippet.Proofs.Loop.Seams
import Snippet.Proofs.Loop.Texts
import Snippet.Proofs.Outline.Expr
import Snippet.Proofs.Outline.Forms
import Snippet.Proofs.Refusal.Settled
import Snippet.Proofs.Resolution
import Snippet.Proofs.Walk
import Snippet.Proofs.WellFormed

/-!
# Declarations that construct

A C++ declaration of a class type hands the arguments of a call to the constructor when the text of
the value starts with the type and a parenthesis. That text starts so as well where the call stands
deeper, as in a call of a method of a new object. `Expr.callees` are the calls a text can start
with, and they tell the two apart.
-/

namespace Snippet

open Layout (BraceStyle Step)
open Loop
open Render Script
open Text (argumentsOf? init? rest? rest?_eq_some_iff)

/-! ### Callees -/

/-- What is called at the front of an expression, the outermost call first. -/
def Expr.callees : Expr → List Expr
  | .call func _ => func :: func.callees
  | .member value _ | .subscript value _ => value.callees
  | _ => []

/-- The text of a callee as it stands before the arguments. -/
def Expr.calleeText (target : Target) (around : Surroundings) (callee : Expr) :
    Except Rejection String :=
  (callee.render target around false).map (target.atom callee)

/-- A value that is a call of the declared class itself. -/
def Expr.Constructs (target : Target) (around : Surroundings) (type : String) (value : Expr)
    (args : List String) : Prop :=
  Dialect.startsUpper type = true ∧
    ∃ func operands, value = .call func operands ∧ func.calleeText target around = .ok type ∧
      Expr.renderAll target around false operands = .ok args

/-- A value that is another call, with a text that starts as a call of the declared class does. -/
def Expr.Misleads (target : Target) (around : Surroundings) (type : String) (value : Expr)
    (text : String) : Prop :=
  Dialect.startsUpper type = true ∧ value.isCall = true ∧
    (∀ args, ¬ value.Constructs target around type args) ∧
      ∃ more, text = type ++ "(" ++ more ++ ")"

/-! ### The form of a declaration -/

theorem argumentsOf?_eq_some_iff {name text arguments : List Char} :
    argumentsOf? name text = some arguments ↔ text = name ++ '(' :: (arguments ++ [')']) := by
  refine ⟨eq_of_argumentsOf?_eq_some, ?_⟩
  rintro rfl
  have hrest : rest? (name ++ ['(']) (name ++ '(' :: (arguments ++ [')'])) =
      some (arguments ++ [')']) := by simp [rest?_eq_some_iff]
  simp [argumentsOf?, hrest, init?]

theorem argumentsOf?_toList {name text : String} {arguments : List Char}
    (h : argumentsOf? name.toList text.toList = some arguments) :
    text = name ++ "(" ++ String.ofList arguments ++ ")" := by
  rw [argumentsOf?_eq_some_iff] at h
  exact String.toList_injective (by simpa using h)

section Declaration

variable {target hint value : String}

theorem cppDeclaration_of_arguments {more : String} (hupper : Dialect.startsUpper hint = true)
    (hvalue : value = hint ++ "(" ++ more ++ ")") :
    Dialect.cppDeclaration ⟨target, hint, some value, true⟩ =
      hint ++ " " ++ target ++ "(" ++ more ++ ");" := by
  have hfound : argumentsOf? hint.toList value.toList = some more.toList := by
    rw [argumentsOf?_eq_some_iff, hvalue]
    simp
  simp [Dialect.cppDeclaration, hupper, hfound]

theorem cppDeclaration_plain {isCall : Bool}
    (h : ∀ more, Dialect.startsUpper hint = true → isCall = true →
      value ≠ hint ++ "(" ++ more ++ ")") :
    Dialect.cppDeclaration ⟨target, hint, some value, isCall⟩ =
      hint ++ " " ++ target ++ " = " ++ value ++ ";" := by
  rw [Dialect.cppDeclaration]
  dsimp only
  split
  · next hboth =>
      rw [Bool.and_eq_true] at hboth
      cases hfound : argumentsOf? hint.toList value.toList with
      | none => rfl
      | some arguments => exact absurd (argumentsOf?_toList hfound) (h _ hboth.1 hboth.2)
  · rfl

end Declaration

/-! ### Where parentheses are -/

theorem Dialect.not_paren_mem_styledName {ident : String} (h : LeafIsBare (.name ident)) :
    '(' ∉ (cpp.styledName ident).toList := fun hmem =>
  absurd (List.all_eq_true.mp (all_isInert_styledName h cpp) _ hmem) (by decide)

theorem Dialect.not_paren_mem_name {ident : String} (around : Surroundings)
    (h : LeafIsBare (.name ident)) : '(' ∉ (cpp.name around ident).toList := by
  have hident : '(' ∉ ident.toList := fun hmem =>
    absurd (List.all_eq_true.mp h _ hmem) (by decide)
  rw [Dialect.name.eq_def, Dialect.rename?]
  split
  · next renamed hrenamed =>
      obtain ⟨-, hsome⟩ := Option.ite_none_right_eq_some.mp hrenamed
      obtain rfl := Option.some.inj hsome
      simpa using hident
  · split
    · decide
    · exact not_paren_mem_styledName h

theorem Dialect.head_of_paren_mem_constant {value : Constant}
    (h : '(' ∈ (cpp.constant value false).toList) :
    (cpp.constant value false).toList.head? = some '"' := by
  have hnumeral : '(' ∉ numeralCharacters := by decide
  cases value with
  | nothing => exact absurd h (by decide)
  | bool value =>
      change '(' ∈ (if value then "true" else "false").toList at h
      cases value <;> exact absurd h (by decide)
  | int value => exact absurd (mem_int value.toInt _ h) hnumeral
  | float value => exact absurd (mem_double value _ h) hnumeral
  | str text => simp [Dialect.constant, Text.jsonString, Text.enclose]

/-! ### What a text starts with -/

/-- A text that starts as a call of a class does. -/
structure OpensCall (type text : String) : Prop where
  upper : Dialect.startsUpper type = true
  opens : type.toList ++ ['('] <+: text.toList

namespace OpensCall

variable {type text : String}

theorem paren_mem (h : OpensCall type text) : '(' ∈ text.toList :=
  h.opens.subset (by simp)

theorem isUpper_head (h : OpensCall type text) {c : Char} (hc : c ∈ text.toList.head?) :
    c.isUpper = true := by
  have hupper := h.upper
  rw [Dialect.startsUpper] at hupper
  split at hupper
  · cases hupper
  · next first rest htype =>
      obtain ⟨more, hmore⟩ := h.opens
      rw [htype] at hmore
      obtain rfl : first = c := by simpa [← hmore] using hc
      exact hupper

theorem plain {expr : Expr} {style : BraceStyle}
    (h : OpensCall type (Target.atom (.curly .cpp style) expr text)) :
    Strength.atom ≤ expr.strength ∧ OpensCall type text := by
  rw [Target.atom] at h
  split at h
  · exact absurd (h.isUpper_head (c := '(') (by simp [Target.group])) (by decide)
  · next hstrength => exact ⟨Nat.le_of_not_lt hstrength, h⟩

theorem append (h : OpensCall type text) (rest : String) : OpensCall type (text ++ rest) :=
  ⟨h.upper, h.opens.trans (by simp)⟩

theorem of_call (hupper : Dialect.startsUpper type = true) (rest : String) :
    OpensCall type (type ++ "(" ++ rest) := by
  have hopens : OpensCall type (type ++ "(") := ⟨hupper, by simp⟩
  exact hopens.append rest

theorem exists_rest (h : OpensCall type text) : ∃ rest, text = type ++ "(" ++ rest := by
  obtain ⟨rest, hrest⟩ := h.opens
  exact ⟨String.ofList rest, String.toList_injective (by simp [← hrest])⟩

end OpensCall

theorem Expr.calleeText_eq_ok_iff {target : Target} {around : Surroundings} {callee : Expr}
    {text : String} : callee.calleeText target around = .ok text ↔
      ∃ plain, callee.render target around false = .ok plain ∧
        text = target.atom callee plain := by
  rw [calleeText]
  cases callee.render target around false with
  | error rejection => simp [Except.map]
  | ok plain => simp [Except.map, eq_comm]

section Chains

variable {style : BraceStyle} {around : Surroundings} {type : String}

theorem Expr.exists_of_render_call {func : Expr} {operands : List Expr} {text : String}
    (h : (Expr.call func operands).render (.curly .cpp style) around false = .ok text) :
    ∃ callee args, func.calleeText (.curly .cpp style) around = .ok callee ∧
      Expr.renderAll (.curly .cpp style) around false operands = .ok args ∧
      text = callee ++ "(" ++ commaList args ++ ")" := by
  obtain ⟨plain, args, hplain, hargs, hcall⟩ := exists_parts_of_call h
  obtain rfl := Option.some.inj hcall
  exact ⟨_, args, calleeText_eq_ok_iff.mpr ⟨plain, hplain, rfl⟩, hargs, rfl⟩

theorem Expr.exists_of_render_member {value : Expr} {attr text : String}
    (h : (Expr.member value attr).render (.curly .cpp style) around false = .ok text) :
    ∃ object, value.calleeText (.curly .cpp style) around = .ok object ∧
      text = Dialect.cpp.member object attr := by
  obtain ⟨plain, hplain, rfl⟩ := exists_parts_of_member h
  exact ⟨_, calleeText_eq_ok_iff.mpr ⟨plain, hplain, rfl⟩, rfl⟩

/-- There are no slices in C++. -/
theorem Expr.exists_of_render_subscript {value index : Expr} {text : String}
    (h : (Expr.subscript value index).render (.curly .cpp style) around false = .ok text) :
    ∃ object inside, value.calleeText (.curly .cpp style) around = .ok object ∧
      index.render (.curly .cpp style) around false = .ok inside ∧
      text = object ++ "[" ++ inside ++ "]" := by
  cases index with
  | slice lower upper step =>
      rw [Expr.render] at h
      obtain ⟨object, -, h⟩ := exists_of_bind_eq_ok h
      obtain ⟨start, -, h⟩ := exists_of_bind_eq_ok h
      obtain ⟨stop, -, h⟩ := exists_of_bind_eq_ok h
      obtain ⟨stride, -, h⟩ := exists_of_bind_eq_ok h
      cases h
  | _ =>
      obtain ⟨plain, inside, hplain, hinside, rfl⟩ := exists_parts_of_subscript (by simp) h
      exact ⟨_, inside, calleeText_eq_ok_iff.mpr ⟨plain, hplain, rfl⟩, hinside, rfl⟩

theorem OpensCall.of_member {object attr : String} (hattr : LeafIsBare (.name attr))
    (h : OpensCall type (Dialect.cpp.member object attr)) : OpensCall type object := by
  have hplain : OpensCall type (object ++ "." ++ Dialect.cpp.styledName attr) →
      OpensCall type object := by
    rintro ⟨hupper, hopens⟩
    rw [String.append_assoc, String.toList_append] at hopens
    rcases cases_of_concat_prefix hopens with hshort | ⟨more, -, hmore⟩
    · exact ⟨hupper, hshort⟩
    · have hmem : '(' ∈ ("." ++ Dialect.cpp.styledName attr).toList := hmore.subset (by simp)
      exact absurd (by simpa using hmem) (Dialect.not_paren_mem_styledName hattr)
  rw [Dialect.member.eq_def] at h
  split at h
  · exact absurd (h.isUpper_head (c := 's') (by split <;> simp)) (by decide)
  · exact absurd (h.isUpper_head (c := 't') (by simp)) (by decide)
  · contradiction
  · exact hplain h

theorem OpensCall.member {object : String} (h : OpensCall type object) (attr : String) :
    OpensCall type (Dialect.cpp.member object attr) := by
  rw [Dialect.member.eq_def]
  split
  · exact absurd h.paren_mem (by decide)
  · exact absurd h.paren_mem (by decide)
  · contradiction
  · exact (h.append _).append _

theorem sealed_of_render {expr : Expr} {asType : Bool} {text : String}
    (h : ∀ leaf ∈ expr.leaves, LeafIsBare leaf)
    (htext : expr.render (.curly .cpp style) around asType = .ok text) : Sealed text := by
  have hfits : ∀ leaf ∈ expr.leaves, leaf.Fits .cpp Sealed fun _ => True :=
    fun leaf hleaf => (h leaf hleaf).fits_sealed .cpp
  have hagrees : Agrees .cpp Sealed fun style =>
      expr.render (.curly .cpp style) around asType := Expr.render_agrees codeLaw_sealed _ hfits
  exact hagrees.good htext

theorem sealed_of_calleeText {callee : Expr} {text : String}
    (h : ∀ leaf ∈ callee.leaves, LeafIsBare leaf)
    (htext : callee.calleeText (.curly .cpp style) around = .ok text) : Sealed text := by
  obtain ⟨plain, hplain, rfl⟩ := Expr.calleeText_eq_ok_iff.mp htext
  exact codeLaw_sealed.atom (sealed_of_render h hplain) _ _

theorem sealed_of_renderAll {exprs : List Expr} {texts : List String}
    (h : ∀ leaf ∈ Expr.leavesAll exprs, LeafIsBare leaf)
    (htexts : Expr.renderAll (.curly .cpp style) around false exprs = .ok texts) :
    Sealed (commaList texts) := by
  have hfits : ∀ leaf ∈ Expr.leavesAll exprs, leaf.Fits .cpp Sealed fun _ => True :=
    fun leaf hleaf => (h leaf hleaf).fits_sealed .cpp
  have hagrees : Agrees .cpp (fun texts => ∀ text ∈ texts, Sealed text) fun style =>
      Expr.renderAll (.curly .cpp style) around false exprs :=
    Expr.renderAll_agrees codeLaw_sealed _ hfits
  exact codeLaw_sealed.commaList (hagrees.good htexts)

/-- A text that starts as a call of a class does has a call of the class at its front. -/
theorem Expr.exists_callee_of_opensCall (htype : Sealed type) : (expr : Expr) →
    expr.wellFormed = true → (∀ leaf ∈ expr.leaves, LeafIsBare leaf) →
    ∀ {text : String}, expr.calleeText (.curly .cpp style) around = .ok text →
      OpensCall type text →
      ∃ inner ∈ expr.callees, inner.calleeText (.curly .cpp style) around = .ok type := by
  intro expr hwell hbare text htext hfront
  -- Along the callees; the other forms have no parenthesis or begin with no capital.
  obtain ⟨plain, hplain, rfl⟩ := calleeText_eq_ok_iff.mp htext
  obtain ⟨hstrength, hopens⟩ := hfront.plain
  match expr with
  | .constant value =>
      obtain rfl := Except.ok.inj hplain
      have hhead := Dialect.head_of_paren_mem_constant hopens.paren_mem
      exact absurd (hopens.isUpper_head hhead) (by decide)
  | .name ident =>
      obtain rfl := Except.ok.inj hplain
      have hident : LeafIsBare (.name ident) := hbare _ List.mem_cons_self
      exact absurd hopens.paren_mem (Dialect.not_paren_mem_name around hident)
  | .member value attr =>
      rw [Expr.wellFormed] at hwell
      obtain ⟨hattr, hvalue⟩ := List.forall_mem_cons.mp hbare
      obtain ⟨object, hobject, rfl⟩ := exists_of_render_member hplain
      exact exists_callee_of_opensCall htype value hwell hvalue hobject
        (OpensCall.of_member hattr hopens)
  | .call func operands =>
      rw [Expr.wellFormed, Bool.and_eq_true] at hwell
      obtain ⟨hfunc, hoperands⟩ := List.forall_mem_append.mp hbare
      obtain ⟨callee, args, hcallee, hargs, rfl⟩ := exists_of_render_call hplain
      have hprefix : type.toList ++ ['('] <+:
          callee.toList ++ '(' :: ((commaList args).toList ++ [')']) := by
        simpa using hopens.opens
      rcases htype.cases_of_prefix (sealed_of_calleeText hfunc hcallee)
        (sealed_of_renderAll hoperands hargs) (by decide) (by decide) hprefix with hdeep | ⟨rfl, -⟩
      · obtain ⟨inner, hinner, htext⟩ := exists_callee_of_opensCall htype func hwell.1 hfunc hcallee
          ⟨hopens.upper, hdeep⟩
        exact ⟨inner, List.mem_cons_of_mem _ hinner, htext⟩
      · exact ⟨func, List.mem_cons_self, hcallee⟩
  | .subscript value index =>
      rw [Expr.wellFormed, Bool.and_eq_true] at hwell
      obtain ⟨hvalue, hindex⟩ := List.forall_mem_append.mp hbare
      obtain ⟨object, inside, hobject, hinside, rfl⟩ := exists_of_render_subscript hplain
      have hprefix : type.toList ++ ['('] <+: object.toList ++ '[' :: (inside.toList ++ [']']) := by
        simpa using hopens.opens
      rcases htype.cases_of_prefix (sealed_of_calleeText hvalue hobject)
        (sealed_of_render hindex hinside) (by decide) (by decide) hprefix with hdeep | ⟨-, hsame⟩
      · exact exists_callee_of_opensCall htype value hwell.1 hvalue hobject ⟨hopens.upper, hdeep⟩
      · exact absurd hsame (by decide)
  | .unary op _ => exact absurd (Operator.unary op).strength_lt_atom (Nat.not_lt.mpr hstrength)
  | .binary _ op _ => exact absurd (Operator.binary op).strength_lt_atom (Nat.not_lt.mpr hstrength)
  | .bool op _ => exact absurd (Operator.bool op).strength_lt_atom (Nat.not_lt.mpr hstrength)
  | .compare .. =>
      exact absurd (show Strength.atom ≤ Strength.comparison from hstrength) (by decide)
  | .conditional .. | .starred _ =>
      exact absurd (show Strength.atom ≤ Strength.conditional from hstrength) (by decide)
  | .tuple _ | .list _ | .set _ =>
      rw [Expr.render] at hplain
      obtain ⟨elements, -, hplain⟩ := exists_of_bind_eq_ok hplain
      obtain rfl := Option.some.inj (eq_some_of_accept_eq_ok hplain)
      exact absurd (hopens.isUpper_head (c := '\x7b') (by simp [Dialect.sequence])) (by decide)
  | .dict _ =>
      rw [Expr.render] at hplain
      obtain ⟨pairs, -, hplain⟩ := exists_of_bind_eq_ok hplain
      obtain rfl := Option.some.inj (eq_some_of_accept_eq_ok hplain)
      exact absurd (hopens.isUpper_head (c := '\x7b') (by simp [Dialect.dict])) (by decide)
  | .slice .. => cases hplain
  | .matchValue _ | .matchAs _ => cases hwell

/-- A call at the front of an expression starts its text. -/
theorem Expr.opensCall_of_mem_callees (hupper : Dialect.startsUpper type = true) (expr : Expr)
    {text : String} (htext : expr.calleeText (.curly .cpp style) around = .ok text) {inner : Expr}
    (hinner : inner ∈ expr.callees)
    (htype : inner.calleeText (.curly .cpp style) around = .ok type) : OpensCall type text := by
  fun_induction callees expr generalizing text with
  | case1 func operands ih =>
      obtain ⟨plain, hplain, rfl⟩ := calleeText_eq_ok_iff.mp htext
      obtain ⟨callee, args, hcallee, -, rfl⟩ := exists_of_render_call hplain
      rcases List.mem_cons.mp hinner with rfl | hdeep
      · obtain rfl : type = callee := Except.ok.inj (htype.symm.trans hcallee)
        exact (OpensCall.of_call hupper _).append _
      · exact (((ih hcallee hdeep).append _).append _).append _
  | case2 value attr ih =>
      obtain ⟨plain, hplain, rfl⟩ := calleeText_eq_ok_iff.mp htext
      obtain ⟨object, hobject, rfl⟩ := exists_of_render_member hplain
      exact (ih hobject hinner).member attr
  | case3 value index ih =>
      obtain ⟨plain, hplain, rfl⟩ := calleeText_eq_ok_iff.mp htext
      obtain ⟨object, inside, hobject, -, rfl⟩ := exists_of_render_subscript hplain
      exact (((ih hobject hinner).append _).append _).append _
  | case4 => cases hinner

end Chains

/-! ### Declarations of a name -/

section Statements

variable {style : BraceStyle} {around : Surroundings} {hint value : Expr} {type text : String}

theorem render_declaration (line : UInt64) (ident : String)
    (hhint : hint.render (.curly .cpp style) around true = .ok type)
    (hvalue : value.render (.curly .cpp style) around false = .ok text) :
    (Stmt.mk line (.annAssign (.name ident) hint (some value))).render (.curly .cpp style) around =
      ⟨.ok (), around.declare ident type, [.prepare line, .line (Dialect.cppDeclaration
        ⟨Dialect.cpp.name around ident, type, some text, value.isCall⟩)]⟩ := by
  have hsight : (Target.curly .cpp style).nameText (around.declare ident type) =
      (Target.curly .cpp style).nameText around := rfl
  have htype : renderType (.curly .cpp style) hint around = ⟨.ok type, around, []⟩ :=
    congrArg (Outcome.mk · around []) hhint
  have htext : renderOptionalExpr (.curly .cpp style) (some value) (around.declare ident type) =
      ⟨.ok (some text), around.declare ident type, []⟩ := by
    have hsome : Expr.renderOptional (.curly .cpp style) (around.declare ident type) false
        (some value) = .ok (some text) := by
      rw [Expr.renderOptional, Expr.render_congr hsight, hvalue]
      rfl
    exact congrArg (Outcome.mk · (around.declare ident type) []) hsome
  have hname : declareTarget (.name ident) type around = ⟨.ok (), around.declare ident type, []⟩ :=
    rfl
  rw [Stmt.render, StmtKind.render]
  simp only [bind_apply, emit, htype, hname]
  simp only [renderExpr, Script.text, Expr.render, htext, surroundings]
  rfl

theorem Expr.Constructs.text_eq {args : List String}
    (h : value.Constructs (.curly .cpp style) around type args)
    (hvalue : value.render (.curly .cpp style) around false = .ok text) :
    value.isCall = true ∧ text = type ++ "(" ++ commaList args ++ ")" := by
  obtain ⟨-, func, operands, rfl, hfunc, hargs⟩ := h
  obtain ⟨callee, others, hcallee, hothers, rfl⟩ := exists_of_render_call hvalue
  obtain rfl : type = callee := Except.ok.inj (hfunc.symm.trans hcallee)
  obtain rfl : args = others := Except.ok.inj (hargs.symm.trans hothers)
  exact ⟨rfl, rfl⟩

/-- The calls that mislead are those with a call of the declared class deeper at the front. -/
theorem Expr.misleads_iff (hhint : ∀ leaf ∈ hint.leaves, LeafIsBare leaf)
    (htype : hint.render (.curly .cpp style) around true = .ok type)
    (hwell : value.wellFormed = true) (hbare : ∀ leaf ∈ value.leaves, LeafIsBare leaf)
    (hvalue : value.render (.curly .cpp style) around false = .ok text) :
    value.Misleads (.curly .cpp style) around type text ↔
      Dialect.startsUpper type = true ∧ ∃ func operands, value = .call func operands ∧
        ∃ inner ∈ func.callees, inner.calleeText (.curly .cpp style) around = .ok type := by
  have hsealed := sealed_of_render hhint htype
  constructor
  · rintro ⟨hupper, hcall, hother, more, hmore⟩
    refine ⟨hupper, ?_⟩
    cases value with
    | call func operands =>
        refine ⟨func, operands, rfl, ?_⟩
        have hopens : OpensCall type text := hmore ▸ (OpensCall.of_call hupper more).append ")"
        obtain ⟨callee, args, -, hargs, -⟩ := exists_of_render_call hvalue
        obtain ⟨inner, hinner, htext⟩ := exists_callee_of_opensCall hsealed _ hwell hbare
          (calleeText_eq_ok_iff.mpr ⟨text, hvalue, rfl⟩) hopens
        -- The outermost callee is the class only in a call of the class.
        rcases List.mem_cons.mp hinner with rfl | hdeep
        · exact absurd ⟨hupper, inner, operands, rfl, htext, hargs⟩ (hother args)
        · exact ⟨inner, hdeep, htext⟩
    | _ => cases hcall
  · rintro ⟨hupper, func, operands, rfl, inner, hinner, htext⟩
    obtain ⟨callee, args, hcallee, -, rfl⟩ := exists_of_render_call hvalue
    obtain ⟨rest, rfl⟩ := (opensCall_of_mem_callees hupper func hcallee hinner htext).exists_rest
    refine ⟨hupper, rfl, ?_, rest ++ "(" ++ commaList args, by simp [String.append_assoc]⟩
    rintro others ⟨-, called, _, heq, hcalled, -⟩
    obtain ⟨rfl, -⟩ := Expr.call.inj heq
    have hsame := congrArg String.toList (Except.ok.inj (hcallee.symm.trans hcalled))
    simp at hsame

/-- **Calls of the declared class construct.** A declaration has the constructor's form exactly for
a call of its own class, and initializes with the value otherwise, unless the value misleads: then
the text after the class is taken for arguments. With names that have neither brackets nor quotes,
the values that mislead are calls with a call of the class deeper at their front. -/
theorem declaration_constructs_unless_misled (line : UInt64) (ident : String)
    (hhint : hint.render (.curly .cpp style) around true = .ok type)
    (hvalue : value.render (.curly .cpp style) around false = .ok text) :
    let start := type ++ " " ++ Dialect.cpp.name around ident
    let constructs := value.Constructs (.curly .cpp style) around type
    let misleads := value.Misleads (.curly .cpp style) around type text
    ∃ code,
      (Stmt.mk line (.annAssign (.name ident) hint (some value))).render (.curly .cpp style)
          around =
        ⟨.ok (), around.declare ident type, [.prepare line, .line code]⟩ ∧
      (((∀ args, constructs args → code = start ++ "(" ++ commaList args ++ ");") ∧
        ((∀ args, ¬ constructs args) → code = start ++ " = " ++ text ++ ";")) ↔ ¬ misleads) ∧
      (misleads → ∃ more, text = type ++ "(" ++ more ++ ")" ∧ code = start ++ "(" ++ more ++ ");") ∧
      ((∀ leaf ∈ hint.leaves, LeafIsBare leaf) → value.wellFormed = true →
        (∀ leaf ∈ value.leaves, LeafIsBare leaf) →
        (misleads ↔ Dialect.startsUpper type = true ∧ ∃ func operands,
          value = .call func operands ∧ ∃ inner ∈ func.callees,
            inner.calleeText (.curly .cpp style) around = .ok type)) := by
  intro start constructs misleads
  have hmisled : misleads → ∃ more, text = type ++ "(" ++ more ++ ")" ∧
      Dialect.cppDeclaration ⟨Dialect.cpp.name around ident, type, some text, value.isCall⟩ =
        start ++ "(" ++ more ++ ");" := by
    rintro ⟨hupper, hcall, -, more, hmore⟩
    exact ⟨more, hmore, by rw [hcall, cppDeclaration_of_arguments hupper hmore]⟩
  refine ⟨_, render_declaration line ident hhint hvalue, ⟨?_, ?_⟩, hmisled,
    fun hbare hwell hleaves => Expr.misleads_iff hbare hhint hwell hleaves hvalue⟩
  · rintro ⟨-, hplain⟩ hmisleads
    obtain ⟨more, -, hcode⟩ := hmisled hmisleads
    have hsame := congrArg String.toList (hcode.symm.trans (hplain hmisleads.2.2.1))
    simp at hsame
  · intro hnone
    refine ⟨fun args hargs => ?_, fun hother => cppDeclaration_plain fun more hupper hcall hmore =>
      hnone ⟨hupper, hcall, hother, more, hmore⟩⟩
    obtain ⟨hcall, htext⟩ := hargs.text_eq hvalue
    rw [hcall, cppDeclaration_of_arguments hargs.1 htext]

end Statements

/-- `box: Box = Box(Point(1), 2)` hands its arguments to the constructor. -/
theorem declaration_constructs_unless_misled_box :
    let point := Expr.call (.name "Point") [.constant (.int 1)]
    let value := Expr.call (.name "Box") [point, .constant (.int 2)]
    ((Expr.name "Box").render .cpp .outermost true = .ok "Box" ∧
      value.render .cpp .outermost false = .ok "Box(Point(1), 2)") ∧
    ((Stmt.mk 1 (.annAssign (.name "box") (.name "Box") (some value))).render .cpp
      .outermost).steps = [.prepare 1, .line "Box box(Point(1), 2);"] := by
  intro point value
  have hhint : (Expr.name "Box").render .cpp .outermost true = .ok "Box" := rfl
  have hvalue : value.render .cpp .outermost false = .ok "Box(Point(1), 2)" := rfl
  refine ⟨⟨hhint, hvalue⟩, ?_⟩
  obtain ⟨code, hrender, hform, -, hmisleads⟩ :=
    declaration_constructs_unless_misled 1 "box" hhint hvalue
  have hnone := mt (hmisleads (by decide) rfl (by decide)).mp <| by
    rintro ⟨-, func, operands, heq, inner, hinner, -⟩
    obtain ⟨rfl, -⟩ := Expr.call.inj heq
    cases hinner
  have hargs : value.Constructs .cpp .outermost "Box" ["Point(1)", "2"] :=
    ⟨rfl, _, _, rfl, rfl, rfl⟩
  rw [Target.cpp, hrender, (hform.mpr hnone).1 _ hargs]
  rfl

/-- The scaled point is not what is declared: `p: Point = Point(1).scaled(2)` is no call of `Point`,
and the call of the method is lost among the arguments. -/
theorem declaration_misled_by_chain :
    let point := Expr.call (.name "Point") [.constant (.int 1)]
    let value := Expr.call (.member point "scaled") [.constant (.int 2)]
    (∀ args, ¬ value.Constructs .cpp .outermost "Point" args) ∧
      (Expr.name "Point").render .cpp .outermost true = .ok "Point" ∧
      value.render .cpp .outermost false = .ok "Point(1).scaled(2)" ∧
      ((Stmt.mk 1 (.annAssign (.name "p") (.name "Point") (some value))).render .cpp
        .outermost).steps = [.prepare 1, .line "Point p(1).scaled(2);"] := by
  intro point value
  have hcode : Dialect.cppDeclaration ⟨"p", "Point", some "Point(1).scaled(2)", true⟩ =
      "Point p(1).scaled(2);" := by decide
  refine ⟨?_, rfl, rfl, ?_⟩
  · rintro args ⟨-, func, operands, heq, hcallee, -⟩
    obtain ⟨rfl, -⟩ := Expr.call.inj heq
    exact absurd (Except.ok.inj hcallee) (by decide)
  · have hhint : (Expr.name "Point").render .cpp .outermost true = .ok "Point" := rfl
    rw [Target.cpp, render_declaration 1 "p" hhint rfl]
    exact congrArg (fun code => [Step.prepare 1, .line code]) hcode

end Snippet
