import Snippet.Proofs.Refusal.Settled

/-!
# What the languages with braces have no form for

A verdict on a list of nodes says of a result that it names the first of them which the dialect
refuses, or else is a value. Verdicts on parts that are rendered one after the other add up, and so
every expression is judged by the nodes that the walk reaches in it.
-/

namespace Snippet

open Layout (BraceStyle)
open Render Script

/-- Whether a loop counts: over a call of `range` with one to three arguments, none of them
starred. -/
def Expr.countsRange : Expr → Bool
  | .call (.name ident) args =>
    ident == "range" && (1 ≤ args.length && args.length ≤ 3) && !args.any Expr.isStarred
  | _ => false

def Dialect.refuses (dialect : Dialect) : RejectedNode → Bool
  | .expr (.compare _ [] _) => true
  | .expr (.slice ..) => true
  | .expr (.matchAs none) => true
  | .expr (.matchAs (some _)) => dialect == .cpp
  | .expr (.subscript _ (.slice _ _ step)) => dialect == .cpp || step.isSome
  | .stmt (.forLoop _ iter _ true) => dialect == .cpp || iter.countsRange
  | .stmt (.functionDef header _) => dialect == .cpp && header.isAsync
  | .stmt (.imports _) => dialect == .cpp
  | .stmt (.importFrom module _) => dialect == .cpp || module.isNone
  | _ => false

/-- A result names the first refused node, or there is none and it is a value. -/
def Verdict (dialect : Dialect) (style : BraceStyle) (visited : List RejectedNode) {α : Type}
    (result : Except Rejection α) : Prop :=
  match visited.find? dialect.refuses with
  | none => ∃ a, result = .ok a
  | some node => result = .error ⟨.curly dialect style, node⟩

namespace Verdict

variable {dialect : Dialect} {style : BraceStyle} {α β : Type}

theorem iff_settles {visited : List RejectedNode} {result : Except Rejection α} :
    Verdict dialect style visited result ↔
      Settles (.curly dialect style) id dialect.refuses visited result := by
  rw [Verdict, Settles]
  cases visited.find? dialect.refuses <;> rfl

theorem ok (a : α) : Verdict dialect style [] (Except.ok a) := iff_settles.mpr (.ok a)

theorem accepted {node : RejectedNode} (h : dialect.refuses node = false) (a : α) :
    Verdict dialect style [node] (Except.ok a) :=
  iff_settles.mpr (.accepted h a)

theorem refused {node : RejectedNode} (h : dialect.refuses node = true) :
    Verdict dialect style [node]
      (Except.error ⟨.curly dialect style, node⟩ : Except Rejection α) :=
  iff_settles.mpr (.refuses h)

theorem bind {first : Except Rejection α} {next : α → Except Rejection β}
    {before after : List RejectedNode} (h₁ : Verdict dialect style before first)
    (h₂ : ∀ a, first = .ok a → Verdict dialect style after (next a)) :
    Verdict dialect style (before ++ after) (first >>= next) :=
  iff_settles.mpr ((iff_settles.mp h₁).bind fun a ha => iff_settles.mp (h₂ a ha))

theorem map {first : Except Rejection α} {visited : List RejectedNode} (f : α → β)
    (h : Verdict dialect style visited first) :
    Verdict dialect style visited (first >>= fun a => Except.ok (f a)) :=
  iff_settles.mpr ((iff_settles.mp h).map f)

end Verdict

/-! ### Expressions -/

section Expressions

variable {dialect : Dialect} {style : BraceStyle} {around : Surroundings} {asType : Bool}

theorem refuses_subscript_slice (value : Expr) (lower upper step : Option Expr) (text : String)
    {bounds : Bounds} (h : bounds.step.isSome = step.isSome) :
    dialect.refuses (.expr (.subscript value (.slice lower upper step))) =
      ((Target.curly dialect style).slice? text bounds).isNone := by
  obtain ⟨start, stop, stride⟩ := bounds
  cases dialect with
  | cpp => rfl
  | typeScript typed =>
      cases stride <;> cases stop <;> simp_all [Dialect.refuses, Target.slice?, Dialect.slice?]

theorem curly_answers : Answers (.curly dialect style) around asType dialect.refuses where
  plain {expr} h := by
    cases expr with
    | compare left ops comparators => cases ops <;> first | rfl | cases h
    | subscript value index => cases index <;> first | rfl | cases h
    | _ => first | rfl | cases h
  formless {expr} h := by
    cases expr with
    | compare left ops comparators => cases ops <;> first | rfl | cases h
    | matchAs binder => cases binder <;> first | rfl | cases h
    | _ => first | rfl | cases h
  call _ _ := rfl
  tuple _ _ := rfl
  list _ _ := rfl
  set _ _ := rfl
  dict _ _ := rfl
  conditional _ _ _ _ _ _ := rfl
  slice value lower upper _ text _ h := refuses_subscript_slice value lower upper _ text h
  starred _ _ := rfl
  capture binder := by cases dialect <;> rfl

theorem Expr.render_verdict (expr : Expr) :
    Verdict dialect style expr.visited (expr.render (.curly dialect style) around asType) :=
  Verdict.iff_settles.mpr (expr.render_settled curly_answers)

theorem Expr.renderAll_verdict (exprs : List Expr) :
    Verdict dialect style (Expr.visitedAll exprs)
      (Expr.renderAll (.curly dialect style) around asType exprs) :=
  Verdict.iff_settles.mpr (Expr.renderAll_settled curly_answers exprs)

theorem Expr.renderOptional_verdict (expr : Option Expr) :
    Verdict dialect style (Expr.visitedOptional expr)
      (Expr.renderOptional (.curly dialect style) around asType expr) :=
  Verdict.iff_settles.mpr (Expr.renderOptional_settled curly_answers expr)

theorem rangeArguments?_eq_some {iter : Expr} {args : List Expr}
    (h : iter.rangeArguments? = some args) :
    iter = .call (.name "range") args ∧
      iter.countsRange = (decide (1 ≤ args.length) && decide (args.length ≤ 3)) := by
  fun_cases Expr.rangeArguments? iter with
  | case1 found hstarred => simp [Expr.rangeArguments?, hstarred] at h
  | case2 found hstarred =>
      obtain rfl : found = args := by simpa [Expr.rangeArguments?, hstarred] using h
      exact ⟨rfl, by simp [Expr.countsRange, hstarred]⟩
  | case3 iter hrange => simp [Expr.rangeArguments?] at h

theorem countsRange_of_rangeArguments?_eq_none {iter : Expr} (h : iter.rangeArguments? = none) :
    iter.countsRange = false := by
  rw [Expr.countsRange.eq_def]
  split
  · next ident args =>
      by_cases hident : ident = "range"
      · subst hident
        have hstarred : args.any Expr.isStarred = true := by
          simpa [Expr.rangeArguments?] using h
        simp [hstarred]
      · simp [hident]
  · rfl

theorem Bounds.ofArguments_eq_some {texts : List String} {bounds : Bounds}
    (h : Bounds.ofArguments texts = some bounds) :
    (decide (1 ≤ texts.length) && decide (texts.length ≤ 3)) = true ∧
      bounds.stop.isSome = true := by
  fun_cases Bounds.ofArguments texts with
  | case4 texts _ _ _ => simp_all [Bounds.ofArguments]
  | _ =>
      obtain rfl := Option.some.inj h
      exact ⟨rfl, rfl⟩

theorem Bounds.length_of_ofArguments_eq_none {texts : List String}
    (h : Bounds.ofArguments texts = none) :
    (decide (1 ≤ texts.length) && decide (texts.length ≤ 3)) = false := by
  match texts with
  | [] => rfl
  | [_] | [_, _] | [_, _, _] => cases h
  | _ :: _ :: _ :: _ :: rest => simp

/-- A range is counted through, and has a bound to stop at, exactly when the loop counts. -/
theorem countsRange_of_renderLoopItems {target : Target} {iter : Expr} {items : LoopItems}
    (h : iter.renderLoopItems target around = .ok items) :
    match items with
    | .range bounds _ => iter.countsRange = true ∧ bounds.stop.isSome = true
    | .items _ => iter.countsRange = false := by
  rw [Expr.renderLoopItems] at h
  cases hargs : iter.rangeArguments? with
  | none =>
      simp only [hargs] at h
      obtain ⟨text, -, h⟩ := exists_of_bind_eq_ok h
      obtain rfl : .items text = items := Except.ok.inj h
      exact countsRange_of_rangeArguments?_eq_none hargs
  | some args =>
      simp only [hargs] at h
      obtain ⟨texts, htexts, h⟩ := exists_of_bind_eq_ok h
      rw [(rangeArguments?_eq_some hargs).2, ← length_of_renderAll htexts]
      split at h
      · next bounds hbounds =>
          obtain ⟨text, -, h⟩ := exists_of_bind_eq_ok h
          obtain rfl : .range bounds text = items := Except.ok.inj h
          exact ⟨(Bounds.ofArguments_eq_some hbounds).1, (Bounds.ofArguments_eq_some hbounds).2⟩
      · next hbounds =>
          obtain ⟨text, -, h⟩ := exists_of_bind_eq_ok h
          obtain rfl : .items text = items := Except.ok.inj h
          exact Bounds.length_of_ofArguments_eq_none hbounds

theorem renderLoopItems_verdict (iter : Expr) :
    Verdict dialect style iter.visited (iter.renderLoopItems (.curly dialect style) around) :=
  Verdict.iff_settles.mpr (renderLoopItems_settled curly_answers iter)

end Expressions

end Snippet
