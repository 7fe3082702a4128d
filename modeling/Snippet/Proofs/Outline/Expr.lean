import Snippet.Proofs.Outline.Texts
import Snippet.Proofs.Refusal.Expr

/-!
# Expressions in every brace style

The brace styles give an expression the same text, and it is a text of code, or they all reject it
at the same node.
-/

namespace Snippet

open Layout (BraceStyle)
open Render

/-- Results that do not depend on the brace style: the same good value, or a rejection of the same
node. -/
def Agrees (dialect : Dialect) {α : Type} (Good : α → Prop)
    (family : BraceStyle → Except Rejection α) : Prop :=
  (∃ a, Good a ∧ ∀ style, family style = .ok a) ∨
    ∃ node, ∀ style, family style = .error ⟨.curly dialect style, node⟩

namespace Agrees

variable {dialect : Dialect} {α β : Type} {Good : α → Prop} {Better : β → Prop}

theorem ok {a : α} (h : Good a) : Agrees dialect Good fun _ => .ok a := .inl ⟨a, h, fun _ => rfl⟩

/-- Forms that mention the style but are equal in all styles. -/
theorem same {form : BraceStyle → α} (heq : ∀ style, form style = form .kAndR)
    (h : Good (form .kAndR)) : Agrees dialect Good fun style => pure (form style) :=
  .inl ⟨form .kAndR, h, fun style => congrArg Except.ok (heq style)⟩

theorem error (node : RejectedNode) :
    Agrees dialect Good fun style => .error ⟨.curly dialect style, node⟩ :=
  .inr ⟨node, fun _ => rfl⟩

theorem bind {first : BraceStyle → Except Rejection α}
    {next : BraceStyle → α → Except Rejection β} (h₁ : Agrees dialect Good first)
    (h₂ : ∀ a, Good a → Agrees dialect Better fun style => next style a) :
    Agrees dialect Better fun style => first style >>= next style := by
  rcases h₁ with ⟨a, hgood, hok⟩ | ⟨node, herror⟩
  · have hfirst : ∀ style, (first style >>= next style) = next style a := fun style => by
      rw [hok]
      rfl
    simpa only [Agrees, hfirst] using h₂ a hgood
  · refine .inr ⟨node, fun style => ?_⟩
    simp only [herror]
    rfl

/-- A form that is the same in all styles, or missing in all. -/
theorem accept {node : RejectedNode} {form : BraceStyle → Option α}
    (heq : ∀ style, form style = form .kAndR) (h : ∀ a, form .kAndR = some a → Good a) :
    Agrees dialect Good fun style => Target.accept (.curly dialect style) node (form style) := by
  simp only [heq]
  cases hform : form .kAndR with
  | none => exact error node
  | some a => exact ok (h a hform)

theorem good {family : BraceStyle → Except Rejection α} {style : BraceStyle} {a : α}
    (h : Agrees dialect Good family) (hok : family style = .ok a) : Good a := by
  rcases h with ⟨b, hgood, hall⟩ | ⟨node, herror⟩
  · obtain rfl : b = a := Except.ok.inj ((hall style).symm.trans hok)
    exact hgood
  · exact nomatch (herror style).symm.trans hok

end Agrees

section Expressions

variable {dialect : Dialect} {Code Note : String → Prop} {around : Surroundings} {asType : Bool}

mutual

theorem Expr.render_agrees (law : CodeLaw Code) : (expr : Expr) →
    (∀ leaf ∈ expr.leaves, leaf.Fits dialect Code Note) →
    Agrees dialect Code fun style => expr.render (.curly dialect style) around asType
  | .constant value, h => by
      simp only [Expr.render]
      exact .ok (h (.constant value) List.mem_cons_self asType)
  | .name ident, h => by
      simp only [Expr.render]
      exact .ok (law.name (h (.name ident) List.mem_cons_self) around)
  | .member value attr, h => by
      simp only [Expr.render]
      obtain ⟨hattr, hvalue⟩ := List.forall_mem_cons.mp h
      refine (Expr.render_agrees law value hvalue).bind fun object hobject => ?_
      exact .same (fun _ => rfl) (law.member (law.atom hobject _ _) hattr)
  | .unary op operand, h => by
      simp only [Expr.render]
      refine (Expr.render_agrees law operand h).bind fun text htext => ?_
      exact .same (fun _ => rfl) (law.append (law.unaryOperator op) (law.operand htext _ _ _ _))
  | .binary left op right, h => by
      simp only [Expr.render]
      obtain ⟨hop, hboth⟩ := List.forall_mem_cons.mp h
      obtain ⟨hleft, hright⟩ := List.forall_mem_append.mp hboth
      refine (Expr.render_agrees law left hleft).bind fun first hfirst => ?_
      refine (Expr.render_agrees law right hright).bind fun second hsecond => ?_
      exact .same (fun _ => rfl)
        (law.infixed hop.1 (law.operand hfirst _ _ _ _) (law.operand hsecond _ _ _ _))
  | .bool op values, h => by
      simp only [Expr.render]
      refine (Expr.renderOperands_agrees law (.bool op) _ values h).bind fun texts htexts => ?_
      exact .same (fun _ => rfl) (law.intercalate (law.boolOperator op) htexts)
  | .call func args, h => by
      simp only [Expr.render]
      obtain ⟨hfunc, hargs⟩ := List.forall_mem_append.mp h
      refine (Expr.render_agrees law func hfunc).bind fun callee hcallee => ?_
      refine (Expr.renderAll_agrees law args hargs).bind fun texts htexts => ?_
      refine .accept (fun _ => rfl) fun text htext => ?_
      obtain rfl := Option.some.inj htext
      exact law.call (law.atom hcallee _ _) htexts
  | .tuple elements, h => by
      simp only [Expr.render]
      refine (Expr.renderAll_agrees law elements h).bind fun texts htexts => ?_
      refine .accept (fun _ => rfl) fun text htext => ?_
      obtain rfl := Option.some.inj htext
      exact law.sequence .tuple htexts
  | .list elements, h => by
      simp only [Expr.render]
      refine (Expr.renderAll_agrees law elements h).bind fun texts htexts => ?_
      refine .accept (fun _ => rfl) fun text htext => ?_
      obtain rfl := Option.some.inj htext
      exact law.sequence .list htexts
  | .set elements, h => by
      simp only [Expr.render]
      refine (Expr.renderAll_agrees law elements h).bind fun texts htexts => ?_
      refine .accept (fun _ => rfl) fun text htext => ?_
      obtain rfl := Option.some.inj htext
      exact law.sequence .set htexts
  | .dict pairs, h => by
      simp only [Expr.render]
      refine (Expr.renderPairs_agrees law pairs h).bind fun texts htexts => ?_
      refine .accept (fun _ => rfl) fun text htext => ?_
      obtain rfl := Option.some.inj htext
      exact law.dict htexts
  | .compare left [] comparators, _ => by
      simp only [Expr.render]
      exact .error _
  | .compare left (op :: ops) comparators, h => by
      simp only [Expr.render]
      obtain ⟨hleft, hcomparators⟩ := List.forall_mem_append.mp h
      refine (Expr.render_agrees law left hleft).bind fun text htext => ?_
      refine (Expr.renderLinks_agrees law (op :: ops) comparators hcomparators).bind ?_
      intro rest hrest
      exact .same (fun _ => rfl) (law.compare (law.operand htext _ _ _ _) hrest)
  | .conditional test body orelse, h => by
      simp only [Expr.render]
      obtain ⟨hboth, horelse⟩ := List.forall_mem_append.mp h
      obtain ⟨htest, hbody⟩ := List.forall_mem_append.mp hboth
      refine (Expr.render_agrees law test htest).bind fun testText htestText => ?_
      refine (Expr.render_agrees law body hbody).bind fun bodyText hbodyText => ?_
      refine (Expr.render_agrees law orelse horelse).bind fun orelseText horelseText => ?_
      refine .accept (fun _ => rfl) fun text htext => ?_
      obtain rfl := Option.some.inj htext
      exact law.conditional (law.choice htestText _ _) (law.choice hbodyText _ _)
        (law.choice horelseText _ _)
  | .subscript value index, h => by
      obtain ⟨hvalue, hindex⟩ := List.forall_mem_append.mp h
      cases index with
      | slice lower upper step =>
          simp only [Expr.render]
          rw [Expr.leaves] at hindex
          obtain ⟨hboth, hstep⟩ := List.forall_mem_append.mp hindex
          obtain ⟨hlower, hupper⟩ := List.forall_mem_append.mp hboth
          refine (Expr.render_agrees law value hvalue).bind fun text htext => ?_
          refine (Expr.renderOptional_agrees law lower hlower).bind fun start hstart => ?_
          refine (Expr.renderOptional_agrees law upper hupper).bind fun stop hstop => ?_
          refine (Expr.renderOptional_agrees law step hstep).bind fun stride _ => ?_
          exact .accept (fun _ => rfl) fun _ hform =>
            law.slice (law.atom htext _ _) hstart hstop hform
      | _ =>
          refine (Expr.render_agrees law value hvalue).bind fun text htext => ?_
          refine (Expr.render_agrees law _ hindex).bind fun indexText hindexText => ?_
          exact .same (fun _ => rfl) (law.subscript (law.atom htext _ _) hindexText)
  | .slice lower upper step, _ => by
      simp only [Expr.render]
      exact .error _
  | .starred value, h => by
      simp only [Expr.render]
      refine (Expr.render_agrees law value h).bind fun text htext => ?_
      refine .accept (fun _ => rfl) fun form hform => ?_
      obtain rfl := Option.some.inj hform
      exact law.append (law.plain rfl) (law.atom htext _ _)
  | .matchValue value, h => by
      simp only [Expr.render]
      exact Expr.render_agrees law value h
  | .matchAs none, _ => by
      simp only [Expr.render]
      exact .error _
  | .matchAs (some binder), h => by
      simp only [Expr.render]
      refine .accept (fun _ => rfl) fun form hform => ?_
      exact Dialect.SpellsName.capturePattern (h (.name binder) List.mem_cons_self) hform

theorem Expr.renderAll_agrees (law : CodeLaw Code) : (exprs : List Expr) →
    (∀ leaf ∈ Expr.leavesAll exprs, leaf.Fits dialect Code Note) →
    Agrees dialect (fun texts => ∀ text ∈ texts, Code text) fun style =>
      Expr.renderAll (.curly dialect style) around asType exprs
  | [], _ => by
      simp only [Expr.renderAll]
      exact .ok (by simp)
  | expr :: rest, h => by
      simp only [Expr.renderAll]
      obtain ⟨hexpr, hrest⟩ := List.forall_mem_append.mp h
      refine (Expr.render_agrees law expr hexpr).bind fun text htext => ?_
      refine (Expr.renderAll_agrees law rest hrest).bind fun texts htexts => ?_
      exact .ok (List.forall_mem_cons.mpr ⟨htext, htexts⟩)

theorem Expr.renderOperands_agrees (law : CodeLaw Code) (op : Operator) (least : Nat) :
    (exprs : List Expr) → (∀ leaf ∈ Expr.leavesAll exprs, leaf.Fits dialect Code Note) →
    Agrees dialect (fun texts => ∀ text ∈ texts, Code text) fun style =>
      Expr.renderOperands (.curly dialect style) around asType op least exprs
  | [], _ => by
      simp only [Expr.renderOperands]
      exact .ok (by simp)
  | expr :: rest, h => by
      simp only [Expr.renderOperands]
      obtain ⟨hexpr, hrest⟩ := List.forall_mem_append.mp h
      refine (Expr.render_agrees law expr hexpr).bind fun text htext => ?_
      refine (Expr.renderOperands_agrees law op least rest hrest).bind fun texts htexts => ?_
      exact .same (fun _ => rfl) (List.forall_mem_cons.mpr ⟨law.operand htext _ _ _ _, htexts⟩)

theorem Expr.renderPairs_agrees (law : CodeLaw Code) : (pairs : List (Expr × Expr)) →
    (∀ leaf ∈ Expr.leavesPairs pairs, leaf.Fits dialect Code Note) →
    Agrees dialect (fun texts => ∀ pair ∈ texts, Code pair.1 ∧ Code pair.2) fun style =>
      Expr.renderPairs (.curly dialect style) around asType pairs
  | [], _ => by
      simp only [Expr.renderPairs]
      exact .ok (by simp)
  | (key, value) :: rest, h => by
      simp only [Expr.renderPairs]
      obtain ⟨hboth, hrest⟩ := List.forall_mem_append.mp h
      obtain ⟨hkey, hvalue⟩ := List.forall_mem_append.mp hboth
      refine (Expr.render_agrees law key hkey).bind fun keyText hkeyText => ?_
      refine (Expr.render_agrees law value hvalue).bind fun valueText hvalueText => ?_
      refine (Expr.renderPairs_agrees law rest hrest).bind fun texts htexts => ?_
      exact .ok (List.forall_mem_cons.mpr ⟨⟨hkeyText, hvalueText⟩, htexts⟩)

theorem Expr.renderLinks_agrees (law : CodeLaw Code) : (ops : List CompareOp) →
    (exprs : List Expr) → (∀ leaf ∈ Expr.leavesAll exprs, leaf.Fits dialect Code Note) →
    Agrees dialect
      (fun links => ∀ link ∈ links, Code (" " ++ dialect.operator link.1 ++ " ") ∧ Code link.2)
      fun style => Expr.renderLinks (.curly dialect style) around asType ops exprs
  | op :: ops, expr :: rest, h => by
      simp only [Expr.renderLinks]
      obtain ⟨hexpr, hrest⟩ := List.forall_mem_append.mp h
      refine (Expr.render_agrees law expr hexpr).bind fun text htext => ?_
      refine (Expr.renderLinks_agrees law ops rest hrest).bind fun links hlinks => ?_
      refine .same (fun _ => rfl) (List.forall_mem_cons.mpr ⟨⟨?_, ?_⟩, hlinks⟩)
      · exact law.compareOperator op
      · exact law.operand htext _ _ _ _
  | [], _, _ => by
      simp only [Expr.renderLinks]
      exact .ok (by simp)
  | _ :: _, [], _ => by
      simp only [Expr.renderLinks]
      exact .ok (by simp)

theorem Expr.renderOptional_agrees (law : CodeLaw Code) : (expr : Option Expr) →
    (∀ leaf ∈ Expr.leavesOptional expr, leaf.Fits dialect Code Note) →
    Agrees dialect (fun text => ∀ found ∈ text, Code found) fun style =>
      Expr.renderOptional (.curly dialect style) around asType expr
  | none, _ => by
      simp only [Expr.renderOptional]
      exact .ok (by simp)
  | some expr, h => by
      simp only [Expr.renderOptional]
      refine (Expr.render_agrees law expr h).bind fun text htext => ?_
      exact .ok (by simpa using htext)

end

def Bounds.Spelled (Code : String → Prop) (bounds : Bounds) : Prop :=
  (∀ text ∈ bounds.start, Code text) ∧ (∀ text ∈ bounds.stop, Code text) ∧
    ∀ text ∈ bounds.step, Code text

def LoopItems.Spelled (Code : String → Prop) : LoopItems → Prop
  | .range bounds _ => bounds.Spelled Code
  | .items text => Code text

theorem Bounds.spelled_of_ofArguments {texts : List String} {bounds : Bounds}
    (h : Bounds.ofArguments texts = some bounds) (htexts : ∀ text ∈ texts, Code text) :
    bounds.Spelled Code := by
  rw [Bounds.ofArguments.eq_def] at h
  split at h <;> cases h <;> simp_all [Bounds.Spelled]

theorem Expr.renderLoopItems_agrees (law : CodeLaw Code) (iter : Expr)
    (h : ∀ leaf ∈ iter.leaves, leaf.Fits dialect Code Note) :
    Agrees dialect (LoopItems.Spelled Code) fun style =>
      iter.renderLoopItems (.curly dialect style) around := by
  simp only [Expr.renderLoopItems]
  cases hargs : iter.rangeArguments? with
  | none => exact (Expr.render_agrees law iter h).bind fun text htext => .ok htext
  | some args =>
      obtain ⟨rfl, -⟩ := rangeArguments?_eq_some hargs
      have hall : ∀ leaf ∈ Expr.leavesAll args, leaf.Fits dialect Code Note :=
        (List.forall_mem_append.mp h).2
      refine (Expr.renderAll_agrees law args hall).bind fun texts htexts => ?_
      split
      · next bounds hbounds =>
          refine (Expr.render_agrees law _ h).bind fun _ _ => .ok ?_
          exact Bounds.spelled_of_ofArguments hbounds htexts
      · exact (Expr.render_agrees law _ h).bind fun text htext => .ok htext

end Expressions

end Snippet
