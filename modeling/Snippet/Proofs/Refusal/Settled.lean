import Snippet.Proofs.Visited
import Snippet.Render.Expr

/-!
# Results that are settled by the first refused node

Places in the order of a walk settle a result when it names the node at the first of them that is
refused, or else is a value. What is rendered one part after the other is settled by the places of the
parts in a row. So the nodes that the walk reaches in an expression settle its rendering, for every
target that refuses exactly the nodes it answers with nothing.
-/

namespace Snippet

open Render

/-- A result names the node at the first refused place, or there is none and it is a value. -/
def Settles {ι α : Type} (target : Target) (node : ι → RejectedNode) (refused : ι → Bool)
    (places : List ι) (result : Except Rejection α) : Prop :=
  match places.find? refused with
  | none => ∃ a, result = .ok a
  | some place => result = .error ⟨target, node place⟩

namespace Settles

variable {ι α β : Type} {target : Target} {node : ι → RejectedNode} {refused : ι → Bool}

theorem ok (a : α) : Settles target node refused [] (Except.ok a) := ⟨a, rfl⟩

theorem accepted {place : ι} (h : refused place = false) (a : α) :
    Settles target node refused [place] (Except.ok a) := by
  rw [Settles, List.find?_singleton, h]
  exact ⟨a, rfl⟩

theorem refuses {place : ι} (h : refused place = true) :
    Settles target node refused [place]
      (Except.error ⟨target, node place⟩ : Except Rejection α) := by
  rw [Settles, List.find?_singleton, h]
  rfl

theorem accept {place : ι} {form : Option α} (h : refused place = form.isNone) :
    Settles target node refused [place] (target.accept (node place) form) := by
  cases form with
  | none => exact refuses h
  | some a => exact accepted h a

theorem bind {first : Except Rejection α} {next : α → Except Rejection β} {before after : List ι}
    (h₁ : Settles target node refused before first)
    (h₂ : ∀ a, first = .ok a → Settles target node refused after (next a)) :
    Settles target node refused (before ++ after) (first >>= next) := by
  rw [Settles, List.find?_append]
  rw [Settles] at h₁
  cases hbefore : before.find? refused with
  | none =>
      obtain ⟨a, rfl⟩ : ∃ a, first = .ok a := by simpa [hbefore] using h₁
      exact h₂ a rfl
  | some place =>
      obtain rfl : first = .error ⟨target, node place⟩ := by simpa [hbefore] using h₁
      rfl

theorem congr {result : Except Rejection α} {places others : List ι}
    (h : Settles target node refused places result)
    (hfound : places.find? refused = others.find? refused) :
    Settles target node refused others result := by
  rw [Settles] at h ⊢
  rwa [← hfound]

theorem append_accepted {result : Except Rejection α} {places : List ι} {place : ι}
    (h : Settles target node refused places result) (hplace : refused place = false) :
    Settles target node refused (places ++ [place]) result := by
  refine h.congr ?_
  rw [List.find?_append, List.find?_singleton, hplace]
  cases places.find? refused <;> rfl

theorem cons_accepted {result : Except Rejection α} {places : List ι} {place : ι}
    (hplace : refused place = false) (h : Settles target node refused places result) :
    Settles target node refused (place :: places) result := by
  refine h.congr ?_
  rw [List.find?_cons, hplace]

theorem cons_refuses {places : List ι} {place : ι} (hplace : refused place = true) :
    Settles target node refused (place :: places)
      (Except.error ⟨target, node place⟩ : Except Rejection α) := by
  refine (refuses hplace).congr ?_
  rw [List.find?_singleton, List.find?_cons, hplace]
  rfl

theorem map {first : Except Rejection α} {places : List ι} (f : α → β)
    (h : Settles target node refused places first) :
    Settles target node refused places (first >>= fun a => Except.ok (f a)) := by
  have hlast := h.bind fun a _ => ok (f a)
  rwa [List.append_nil] at hlast

/-- What the nodes of a part settle is settled by the places they have in the whole. -/
theorem placed {place : RejectedNode → ι} {nodes : List RejectedNode} {result : Except Rejection α}
    (hnode : ∀ found, node (place found) = found)
    (h : Settles target id (refused ∘ place) nodes result) :
    Settles target node refused (nodes.map place) result := by
  rw [Settles] at h ⊢
  rw [List.find?_map]
  cases hfound : nodes.find? (refused ∘ place) with
  | none => simpa only [hfound, Option.map_none] using h
  | some found => simpa only [hfound, Option.map_some, hnode, id] using h

theorem exists_mem {places : List ι} {result : Except Rejection α} {rejection : Rejection}
    (h : Settles target node refused places result) (hresult : result = .error rejection) :
    ∃ place ∈ places, rejection.node = node place := by
  rw [Settles, hresult] at h
  cases hfound : places.find? refused with
  | none =>
      obtain ⟨a, ha⟩ : ∃ a, Except.error rejection = Except.ok a := by simpa only [hfound] using h
      cases ha
  | some place =>
      obtain rfl : rejection = ⟨target, node place⟩ := by simpa [hfound] using h
      exact ⟨place, List.mem_of_find?_eq_some hfound, rfl⟩

end Settles

/-! ### Expressions -/

theorem exists_of_bind_eq_ok {ε α β : Type} {first : Except ε α} {next : α → Except ε β} {b : β}
    (h : (first >>= next) = .ok b) :
    ∃ a, first = .ok a ∧ next a = .ok b := by
  cases first with
  | error fault => simp [bind, Except.bind] at h
  | ok a => exact ⟨a, rfl, h⟩

theorem eq_some_of_accept_eq_ok {α : Type} {target : Target} {node : RejectedNode}
    {form : Option α} {a : α} (h : target.accept node form = .ok a) : form = some a := by
  cases form with
  | none => cases h
  | some found => exact congrArg some (Except.ok.inj h)

section Texts

variable {target : Target} {around : Surroundings} {asType : Bool}

theorem length_of_renderAll {exprs : List Expr} {texts : List String}
    (h : Expr.renderAll target around asType exprs = .ok texts) :
    texts.length = exprs.length := by
  induction exprs generalizing texts with
  | nil =>
      obtain rfl : [] = texts := by simpa [Expr.renderAll] using h
      rfl
  | cons expr rest ih =>
      rw [Expr.renderAll] at h
      obtain ⟨text, -, h⟩ := exists_of_bind_eq_ok h
      obtain ⟨more, hmore, h⟩ := exists_of_bind_eq_ok h
      obtain rfl : text :: more = texts := Except.ok.inj h
      simp [ih hmore]

theorem isSome_of_renderOptional {expr : Option Expr} {text : Option String}
    (h : Expr.renderOptional target around asType expr = .ok text) :
    text.isSome = expr.isSome := by
  cases expr with
  | none =>
      obtain rfl : none = text := by simpa [Expr.renderOptional] using h
      rfl
  | some expr =>
      rw [Expr.renderOptional] at h
      obtain ⟨rendered, -, h⟩ := exists_of_bind_eq_ok h
      obtain rfl : some rendered = text := Except.ok.inj h
      rfl

/-! What the text of an expression is put together from. -/

theorem Expr.exists_parts_of_member {value : Expr} {attr text : String}
    (h : (Expr.member value attr).render target around asType = .ok text) :
    ∃ object, value.render target around asType = .ok object ∧
      text = target.member (target.atom value object) attr := by
  rw [Expr.render] at h
  obtain ⟨object, hobject, h⟩ := exists_of_bind_eq_ok h
  exact ⟨object, hobject, (Except.ok.inj h).symm⟩

theorem Expr.exists_parts_of_unary {op : UnaryOp} {operand : Expr} {text : String}
    (h : (Expr.unary op operand).render target around asType = .ok text) :
    ∃ inner, operand.render target around asType = .ok inner ∧
      text = target.unary op (target.operand (.unary op) Strength.unary operand inner) := by
  rw [Expr.render] at h
  obtain ⟨inner, hinner, h⟩ := exists_of_bind_eq_ok h
  exact ⟨inner, hinner, (Except.ok.inj h).symm⟩

theorem Expr.exists_parts_of_binary {left right : Expr} {op : BinaryOp} {text : String}
    (h : (Expr.binary left op right).render target around asType = .ok text) :
    ∃ leftText rightText, left.render target around asType = .ok leftText ∧
      right.render target around asType = .ok rightText ∧
      text = target.infixed (.binary op)
        [target.operand (.binary op) op.leastStrengths.1 left leftText,
          target.operand (.binary op) op.leastStrengths.2 right rightText] := by
  rw [Expr.render] at h
  obtain ⟨leftText, hleft, h⟩ := exists_of_bind_eq_ok h
  obtain ⟨rightText, hright, h⟩ := exists_of_bind_eq_ok h
  exact ⟨leftText, rightText, hleft, hright, (Except.ok.inj h).symm⟩

theorem Expr.exists_parts_of_bool {op : BoolOp} {values : List Expr} {text : String}
    (h : (Expr.bool op values).render target around asType = .ok text) :
    ∃ texts, Expr.renderOperands target around asType (.bool op)
        ((Operator.bool op).strength + 1) values = .ok texts ∧
      text = target.infixed (.bool op) texts := by
  rw [Expr.render] at h
  obtain ⟨texts, htexts, h⟩ := exists_of_bind_eq_ok h
  exact ⟨texts, htexts, (Except.ok.inj h).symm⟩

theorem Expr.exists_parts_of_compare {left : Expr} {op : CompareOp} {ops : List CompareOp}
    {comparators : List Expr} {text : String}
    (h : (Expr.compare left (op :: ops) comparators).render target around asType = .ok text) :
    ∃ leftText links, left.render target around asType = .ok leftText ∧
      Expr.renderLinks target around asType (op :: ops) comparators = .ok links ∧
      text = target.compare
        (target.operand (.compare op) (Strength.comparison + 1) left leftText) links := by
  rw [Expr.render] at h
  obtain ⟨leftText, hleft, h⟩ := exists_of_bind_eq_ok h
  obtain ⟨links, hlinks, h⟩ := exists_of_bind_eq_ok h
  exact ⟨leftText, links, hleft, hlinks, (Except.ok.inj h).symm⟩

theorem Expr.exists_parts_of_call {func : Expr} {args : List Expr} {text : String}
    (h : (Expr.call func args).render target around asType = .ok text) :
    ∃ callee texts, func.render target around asType = .ok callee ∧
      Expr.renderAll target around asType args = .ok texts ∧
      target.call? (target.atom func callee) texts = some text := by
  rw [Expr.render] at h
  obtain ⟨callee, hcallee, h⟩ := exists_of_bind_eq_ok h
  obtain ⟨texts, htexts, h⟩ := exists_of_bind_eq_ok h
  exact ⟨callee, texts, hcallee, htexts, eq_some_of_accept_eq_ok h⟩

theorem Expr.exists_parts_of_subscript {value index : Expr} {text : String}
    (hindex : ∀ lower upper step, index ≠ .slice lower upper step)
    (h : (Expr.subscript value index).render target around asType = .ok text) :
    ∃ object inside, value.render target around asType = .ok object ∧
      index.render target around asType = .ok inside ∧
      text = Target.subscript (target.atom value object) inside := by
  rw [Expr.render] at h
  · obtain ⟨object, hobject, h⟩ := exists_of_bind_eq_ok h
    obtain ⟨inside, hinside, h⟩ := exists_of_bind_eq_ok h
    exact ⟨object, inside, hobject, hinside, (Except.ok.inj h).symm⟩
  · exact hindex

end Texts

/-- Whether every target has a form for an expression, whatever its parts are. -/
def Expr.isPlain : Expr → Bool
  | .constant _ | .name _ | .member .. | .unary .. | .binary .. | .bool .. | .matchValue _ => true
  | .compare _ ops _ => !ops.isEmpty
  | .subscript _ (.slice ..) => false
  | .subscript .. => true
  | _ => false

/-- Whether no target has a form for an expression. -/
def Expr.isFormless : Expr → Bool
  | .compare _ [] _ | .slice .. | .matchAs none => true
  | _ => false

/-- A target refuses exactly the expressions that it answers with nothing, whatever their parts were
rendered as. The answer to a call may hang on the text of the callee. -/
structure Answers (target : Target) (around : Surroundings) (asType : Bool)
    (refused : RejectedNode → Bool) : Prop where
  plain : ∀ {expr : Expr}, expr.isPlain = true → refused (.expr expr) = false
  formless : ∀ {expr : Expr}, expr.isFormless = true → refused (.expr expr) = true
  call : ∀ {func : Expr} {args : List Expr} {callee : String} {texts : List String},
    func.render target around asType = .ok callee → texts.length = args.length →
      refused (.expr (.call func args)) = (target.call? (target.atom func callee) texts).isNone
  tuple : ∀ elements texts,
    refused (.expr (.tuple elements)) = (target.sequence? .tuple texts).isNone
  list : ∀ elements texts,
    refused (.expr (.list elements)) = (target.sequence? .list texts).isNone
  set : ∀ elements texts, refused (.expr (.set elements)) = (target.sequence? .set texts).isNone
  dict : ∀ pairs texts, refused (.expr (.dict pairs)) = (target.dict? texts).isNone
  conditional : ∀ test body orelse testText bodyText orelseText,
    refused (.expr (.conditional test body orelse)) =
      (target.conditional? testText bodyText orelseText).isNone
  slice : ∀ (value : Expr) (lower upper : Option Expr) {step : Option Expr} (text : String)
      {bounds : Bounds}, bounds.step.isSome = step.isSome →
    refused (.expr (.subscript value (.slice lower upper step))) =
      (target.slice? text bounds).isNone
  starred : ∀ value text, refused (.expr (.starred value)) = (target.starred? text).isNone
  capture : ∀ binder,
    refused (.expr (.matchAs (some binder))) = (target.capturePattern? binder).isNone

section Expressions

variable {target : Target} {around : Surroundings} {asType : Bool} {refused : RejectedNode → Bool}

mutual

theorem Expr.render_settled (h : Answers target around asType refused) : (expr : Expr) →
    Settles target id refused expr.visited (expr.render target around asType)
  | .constant value => by
      rw [Expr.visited, Expr.render]
      exact .accepted (h.plain rfl) _
  | .name ident => by
      rw [Expr.visited, Expr.render]
      exact .accepted (h.plain rfl) _
  | .member value attr => by
      rw [Expr.visited, Expr.render]
      exact (value.render_settled h).bind fun _ _ => .accepted (h.plain rfl) _
  | .unary op operand => by
      rw [Expr.visited, Expr.render]
      exact (operand.render_settled h).bind fun _ _ => .accepted (h.plain rfl) _
  | .binary left op right => by
      rw [Expr.visited, Expr.render, List.append_assoc]
      refine (left.render_settled h).bind fun _ _ => ?_
      exact (right.render_settled h).bind fun _ _ => .accepted (h.plain rfl) _
  | .bool op values => by
      rw [Expr.visited, Expr.render]
      exact (Expr.renderOperands_settled h _ _ values).bind fun _ _ => .accepted (h.plain rfl) _
  | .call func args => by
      rw [Expr.visited, Expr.render, List.append_assoc]
      refine (func.render_settled h).bind fun callee hcallee => ?_
      refine (Expr.renderAll_settled h args).bind fun texts htexts => ?_
      exact .accept (h.call hcallee (length_of_renderAll htexts))
  | .tuple elements => by
      rw [Expr.visited, Expr.render]
      exact (Expr.renderAll_settled h elements).bind fun _ _ => .accept (h.tuple _ _)
  | .list elements => by
      rw [Expr.visited, Expr.render]
      exact (Expr.renderAll_settled h elements).bind fun _ _ => .accept (h.list _ _)
  | .set elements => by
      rw [Expr.visited, Expr.render]
      exact (Expr.renderAll_settled h elements).bind fun _ _ => .accept (h.set _ _)
  | .dict pairs => by
      rw [Expr.visited, Expr.render]
      exact (Expr.renderPairs_settled h pairs).bind fun _ _ => .accept (h.dict _ _)
  | .compare left [] comparators => by
      rw [Expr.visited, Expr.render]
      exact .refuses (h.formless rfl)
  | .compare left (op :: ops) comparators => by
      rw [Expr.visited, Expr.render, List.append_assoc]
      refine (left.render_settled h).bind fun _ _ => ?_
      refine (Expr.renderLinks_settled h _ comparators).bind fun _ _ => ?_
      exact .accepted (h.plain rfl) _
  | .conditional test body orelse => by
      rw [Expr.visited, Expr.render, List.append_assoc, List.append_assoc]
      refine (test.render_settled h).bind fun _ _ => (body.render_settled h).bind fun _ _ => ?_
      exact (orelse.render_settled h).bind fun _ _ => .accept (h.conditional _ _ _ _ _ _)
  | .subscript value index => by
      cases index with
      | slice lower upper step =>
          rw [Expr.visited, Expr.render, List.append_assoc, List.append_assoc, List.append_assoc]
          refine (value.render_settled h).bind fun _ _ => ?_
          refine (Expr.renderOptional_settled h lower).bind fun _ _ => ?_
          refine (Expr.renderOptional_settled h upper).bind fun _ _ => ?_
          refine (Expr.renderOptional_settled h step).bind fun stride hstride => .accept ?_
          exact h.slice _ _ _ _ (isSome_of_renderOptional hstride)
      | _ =>
          rw [Expr.visited, Expr.render, List.append_assoc]
          · refine (value.render_settled h).bind fun _ _ => ?_
            exact (Expr.render_settled h _).bind fun _ _ => .accepted (h.plain rfl) _
          · simp
          · simp
  | .slice lower upper step => by
      rw [Expr.visited, Expr.render]
      exact .refuses (h.formless rfl)
  | .starred value => by
      rw [Expr.visited, Expr.render]
      exact (value.render_settled h).bind fun _ _ => .accept (h.starred _ _)
  | .matchValue value => by
      rw [Expr.visited, Expr.render]
      exact (value.render_settled h).append_accepted (h.plain rfl)
  | .matchAs none => by
      rw [Expr.visited, Expr.render]
      exact .refuses (h.formless rfl)
  | .matchAs (some binder) => by
      rw [Expr.visited, Expr.render]
      exact .accept (h.capture binder)

theorem Expr.renderAll_settled (h : Answers target around asType refused) : (exprs : List Expr) →
    Settles target id refused (Expr.visitedAll exprs) (Expr.renderAll target around asType exprs)
  | [] => .ok []
  | expr :: rest => by
      rw [Expr.visitedAll, Expr.renderAll]
      exact (expr.render_settled h).bind fun _ _ => (Expr.renderAll_settled h rest).map _

theorem Expr.renderOperands_settled (h : Answers target around asType refused) (op : Operator)
    (least : Nat) : (exprs : List Expr) →
    Settles target id refused (Expr.visitedAll exprs)
      (Expr.renderOperands target around asType op least exprs)
  | [] => .ok []
  | expr :: rest => by
      rw [Expr.visitedAll, Expr.renderOperands]
      refine (expr.render_settled h).bind fun _ _ => ?_
      exact (Expr.renderOperands_settled h op least rest).map _

theorem Expr.renderPairs_settled (h : Answers target around asType refused) :
    (pairs : List (Expr × Expr)) →
    Settles target id refused (Expr.visitedPairs pairs)
      (Expr.renderPairs target around asType pairs)
  | [] => .ok []
  | (key, value) :: rest => by
      rw [Expr.visitedPairs, Expr.renderPairs, List.append_assoc]
      refine (key.render_settled h).bind fun _ _ => (value.render_settled h).bind fun _ _ => ?_
      exact (Expr.renderPairs_settled h rest).map _

theorem Expr.renderLinks_settled (h : Answers target around asType refused) :
    (ops : List CompareOp) → (exprs : List Expr) →
    Settles target id refused (Expr.visitedLinks ops exprs)
      (Expr.renderLinks target around asType ops exprs)
  | [], exprs => by
      rw [Expr.visitedLinks, Expr.renderLinks]
      · exact .ok []
      · simp
      · simp
  | op :: ops, [] => by
      rw [Expr.visitedLinks, Expr.renderLinks]
      · exact .ok []
      · simp
      · simp
  | op :: ops, expr :: rest => by
      rw [Expr.visitedLinks, Expr.renderLinks]
      exact (expr.render_settled h).bind fun _ _ => (Expr.renderLinks_settled h ops rest).map _

theorem Expr.renderOptional_settled (h : Answers target around asType refused) :
    (expr : Option Expr) →
    Settles target id refused (Expr.visitedOptional expr)
      (Expr.renderOptional target around asType expr)
  | none => .ok none
  | some expr => by
      rw [Expr.visitedOptional, Expr.renderOptional]
      exact (expr.render_settled h).map some

end

theorem eq_range_of_rangeArguments? {iter : Expr} {args : List Expr}
    (h : iter.rangeArguments? = some args) : iter = .call (.name "range") args := by
  fun_cases Expr.rangeArguments? iter with
  | case1 found hstarred => simp [Expr.rangeArguments?, hstarred] at h
  | case2 found hstarred =>
      obtain rfl : found = args := by simpa [Expr.rangeArguments?, hstarred] using h
      rfl
  | case3 iter hrange => simp [Expr.rangeArguments?] at h

/-- The arguments of a range are reached before the call, and then once more within it. -/
theorem renderLoopItems_settled (h : Answers target around false refused) (iter : Expr) :
    Settles target id refused iter.visited (iter.renderLoopItems target around) := by
  rw [Expr.renderLoopItems]
  cases hargs : iter.rangeArguments? with
  | none => exact (iter.render_settled h).map _
  | some args =>
      have hboth : ∀ {result : Except Rejection LoopItems},
          Settles target id refused (Expr.visitedAll args ++ iter.visited) result →
            Settles target id refused iter.visited result := by
        intro result hresult
        refine hresult.congr ?_
        -- Were an argument refused, it would be found in the first pass over the arguments.
        have hname : refused (.expr (.name "range")) = false := h.plain rfl
        rw [eq_range_of_rangeArguments? hargs, Expr.visited, Expr.visited, List.find?_append]
        cases hfound : (Expr.visitedAll args).find? refused <;> simp [hfound, hname]
      refine hboth ((Expr.renderAll_settled h args).bind fun texts _ => ?_)
      cases Bounds.ofArguments texts <;> exact (iter.render_settled h).map _

end Expressions

end Snippet
