import Snippet.Proofs.Loop.Bounds
import Snippet.Proofs.Refusal.Settled

/-!
# Counting loops of rendered expressions

What is read back from the header of a counting loop is the target, the start, the stop and the step
as they were rendered. The stop is the one operand that no sign keeps apart from looser ones: it
has to bind at least as tightly as a shift.
-/

namespace Snippet

open Layout (BraceStyle)
open Loop
open Render Script

section Rendered

variable {dialect : Dialect} {style : BraceStyle} {around : Surroundings} {asType : Bool}

theorem Expr.spoken_of_render {expr : Expr} {text : String} (hwell : expr.wellFormed = true)
    (hclear : ∀ leaf ∈ expr.leaves, LeafIsClear leaf)
    (h : expr.render (.curly dialect style) around asType = .ok text) :
    Spoken expr.bond text := by
  have hfits : ∀ leaf ∈ expr.leaves, leaf.Fits dialect StaysCode fun _ => True :=
    fun leaf hleaf => (hclear leaf hleaf).fits_staysCode dialect
  have hstands : Agrees dialect (Stands expr.bond) fun style =>
      expr.render (.curly dialect style) around asType := Expr.render_stands expr hwell hclear
  exact (hstands.and (Expr.render_agrees codeLaw_staysCode expr hfits)).good h

theorem Expr.spoken_of_renderAll {exprs : List Expr} {texts : List String}
    (hwell : Expr.wellFormedAll exprs = true)
    (hclear : ∀ leaf ∈ Expr.leavesAll exprs, LeafIsClear leaf)
    (h : Expr.renderAll (.curly dialect style) around asType exprs = .ok texts) :
    List.Forall₂ (fun expr text => Spoken expr.bond text) exprs texts := by
  induction exprs generalizing texts with
  | nil =>
      obtain rfl : [] = texts := by simpa [Expr.renderAll] using h
      exact .nil
  | cons expr rest ih =>
      rw [Expr.wellFormedAll, Bool.and_eq_true] at hwell
      obtain ⟨hexpr, hrest⟩ := List.forall_mem_append.mp hclear
      rw [Expr.renderAll] at h
      obtain ⟨text, htext, h⟩ := exists_of_bind_eq_ok h
      obtain ⟨others, hothers, h⟩ := exists_of_bind_eq_ok h
      obtain rfl : text :: others = texts := Except.ok.inj h
      exact .cons (Expr.spoken_of_render hwell.1 hexpr htext) (ih hwell.2 hrest hothers)

end Rendered

/-! ### Roles -/

namespace Loop

/-- What holds of arguments and their texts holds in every role. -/
theorem RangeOf.exists_spelled {α : Type} {p : α → String → Prop} {args : List α}
    {texts : List String} {roles : RangeOf α} (hroles : RangeOf.ofList? args = some roles)
    (h : List.Forall₂ p args texts) :
    ∃ spelled, RangeOf.ofList? texts = some spelled ∧
      Bounds.ofArguments texts = some ⟨spelled.start, some spelled.stop, spelled.step⟩ ∧
      Option.Rel p roles.start spelled.start ∧ p roles.stop spelled.stop ∧
      Option.Rel p roles.step spelled.step := by
  rw [RangeOf.ofList?.eq_def] at hroles
  split at hroles
  · obtain rfl := Option.some.inj hroles
    obtain _ | ⟨hstop, _ | _⟩ := h
    exact ⟨_, rfl, rfl, .none, hstop, .none⟩
  · obtain rfl := Option.some.inj hroles
    obtain _ | ⟨hstart, _ | ⟨hstop, _ | _⟩⟩ := h
    exact ⟨_, rfl, rfl, .some hstart, hstop, .none⟩
  · obtain rfl := Option.some.inj hroles
    obtain _ | ⟨hstart, _ | ⟨hstop, _ | ⟨hstep, _ | _⟩⟩⟩ := h
    exact ⟨_, rfl, rfl, .some hstart, hstop, .some hstep⟩
  · cases hroles

theorem spoken_of_rel {α : Type} {p : α → String → Prop} {least : Nat} {role : Option α}
    {spelled : Option String} (h : Option.Rel p role spelled)
    (hp : ∀ {a text}, p a text → Spoken least text) : ∀ text ∈ spelled, Spoken least text := by
  cases h with
  | none => simp
  | some hrelated => simpa using hp hrelated

end Loop

/-! ### Loops -/

section Loops

variable {dialect : Dialect} {style : BraceStyle} {target : Target} {around : Surroundings}

theorem Expr.renderLoopItems_range {args : List Expr} {items : LoopItems}
    (hstarred : args.any Expr.isStarred = false)
    (h : (Expr.call (.name "range") args).renderLoopItems target around = .ok items) :
    ∃ texts, Expr.renderAll target around false args = .ok texts ∧
      ∀ bounds, Bounds.ofArguments texts = some bounds → ∃ call, items = .range bounds call := by
  have hrange : (Expr.call (.name "range") args).rangeArguments? = some args := by
    simp [Expr.rangeArguments?, hstarred]
  rw [Expr.renderLoopItems, hrange] at h
  obtain ⟨texts, htexts, h⟩ := exists_of_bind_eq_ok h
  refine ⟨texts, htexts, fun bounds hbounds => ?_⟩
  rw [hbounds] at h
  obtain ⟨call, -, h⟩ := exists_of_bind_eq_ok h
  exact ⟨call, (Except.ok.inj h).symm⟩

/-- What is written first stays first, whatever comes after it. -/
theorem Render.Script.prefix_bind {α β : Type} (first : Script α) (next : α → Script β) :
    (first around).steps <+: ((first >>= next) around).steps := by
  rw [bind_apply]
  split
  · exact List.prefix_append _ _
  · exact List.prefix_rfl

theorem Render.Script.prefix_bind_of_ok {α β : Type} {first : Script α} {next : α → Script β}
    {a : α} {begun : List Layout.Step} (h : (first around).result = .ok a)
    (hnone : (first around).steps = [])
    (hbegun : begun <+: (next a (first around).around).steps) :
    begun <+: ((first >>= next) around).steps := by
  rw [bind_apply, h]
  simpa [hnone] using hbegun

/-- What begins a loop is written first, however the loop goes on. -/
theorem StmtKind.prefix_forLoop {item iter : Expr} {name : String} {items : LoopItems}
    {begun : List Layout.Step} (body : List Stmt) {isAsync : Bool}
    (hname : item.render target around false = .ok name)
    (hitems : iter.renderLoopItems target around = .ok items)
    (hbegun : target.beginFor? name items isAsync = some begun) :
    begun <+: ((StmtKind.forLoop item iter body isAsync).render target around).steps := by
  have hfirst : (renderExpr target item around).result = .ok name := hname
  have hsecond : (Script.text (fun around => iter.renderLoopItems target around) around).result =
    .ok items := hitems
  have hthird : (emit? target (.stmt (.forLoop item iter body isAsync))
      (target.beginFor? name items isAsync) around).steps = begun := by
    rw [hbegun]
    rfl
  rw [StmtKind.render]
  refine prefix_bind_of_ok hfirst rfl (prefix_bind_of_ok hsecond rfl ?_)
  nth_rewrite 1 [← hthird]
  exact prefix_bind _ _

/-- A loop that is rendered has rendered its parts. -/
theorem StmtKind.begins_forLoop {item iter : Expr} {body : List Stmt} {isAsync : Bool}
    (h : ((StmtKind.forLoop item iter body isAsync).render target around).result = .ok ()) :
    ∃ name items begun, item.render target around false = .ok name ∧
      iter.renderLoopItems target around = .ok items ∧
      target.beginFor? name items isAsync = some begun := by
  rw [StmtKind.render] at h
  obtain ⟨name, hname, h, -⟩ := exists_of_bind_ok h
  obtain ⟨items, hitems, h, -⟩ := exists_of_bind_ok h
  obtain ⟨_, hbegun, -, -⟩ := exists_of_bind_ok h
  cases hform : target.beginFor? name items isAsync with
  | none =>
      rw [hform] at hbegun
      cases hbegun
  | some begun => exact ⟨name, items, begun, hname, hitems, hform⟩

/-- The header of a counting loop that is rendered declares the target with the whole start,
compares it with the whole stop and adds the whole step to it. -/
theorem forLoop_operands_whole {item : Expr} {args : List Expr} {roles : RangeOf Expr}
    {body : List Stmt} {isAsync : Bool}
    (hitem : item.wellFormed = true) (hargs : Expr.wellFormedAll args = true)
    (hitemClear : ∀ leaf ∈ item.leaves, LeafIsClear leaf)
    (hargsClear : ∀ leaf ∈ Expr.leavesAll args, LeafIsClear leaf)
    (hroles : RangeOf.ofList? args = some roles) (hstarred : args.any Expr.isStarred = false)
    (hplace : Level.access ≤ item.bond) (hstop : Level.shift ≤ roles.stop.bond)
    (h : ((StmtKind.forLoop item (.call (.name "range") args) body isAsync).render
      (.curly dialect style) around).result = .ok ()) :
    ∃ target texts spelled header,
      item.render (.curly dialect style) around false = .ok target ∧
      Expr.renderAll (.curly dialect style) around false args = .ok texts ∧
      RangeOf.ofList? texts = some spelled ∧
      style.opening header <+: ((StmtKind.forLoop item (.call (.name "range") args) body
        isAsync).render (.curly dialect style) around).steps ∧
      readHeader? dialect header = some (headerOf dialect target spelled) := by
  obtain ⟨target, items, begun, htarget, hitems, hbegun⟩ := StmtKind.begins_forLoop h
  have hsteps := StmtKind.prefix_forLoop body htarget hitems hbegun
  obtain ⟨texts, htexts, hrange⟩ := Expr.renderLoopItems_range hstarred hitems
  obtain ⟨spelled, hspelled, hbounds, hstart, hstopText, hstep⟩ :=
    RangeOf.exists_spelled hroles (Expr.spoken_of_renderAll hargs hargsClear htexts)
  obtain ⟨call, rfl⟩ := hrange _ hbounds
  have hspoken := Expr.spoken_of_render hitem hitemClear htarget
  have hconditional : ∀ {expr : Expr} {text}, Spoken expr.bond text →
      Spoken Level.conditional text :=
    fun {expr} _ h => ⟨h.1.mono expr.conditional_le_bond, h.2⟩
  obtain ⟨header, hheader, hread⟩ := readHeader?_countingLoop dialect spelled
    ⟨hspoken.1.mono hplace, hspoken.2⟩ (spoken_of_rel hstart hconditional)
    ⟨hstopText.1.mono hstop, hstopText.2⟩ (spoken_of_rel hstep hconditional)
  refine ⟨target, texts, spelled, header, htarget, htexts, hspelled, ?_, hread⟩
  obtain ⟨opened, hopened, rfl⟩ := Option.map_eq_some_iff.mp hbegun
  rw [Dialect.forHeader?] at hopened
  obtain ⟨-, hopened⟩ := Option.ite_none_left_eq_some.mp hopened
  obtain rfl : header = opened := Option.some.inj (hheader.symm.trans hopened)
  exact hsteps

/-- A sum that groups a conditional stands on its own, and so do a shift before it and a conditional
after it. -/
theorem forLoop_operands_whole_sum :
    let item := Expr.name "i"
    let start := Expr.binary (.name "a") .leftShift (.constant (.int 1))
    let stop := Expr.binary (.conditional (.name "p") (.name "x") (.name "y")) .add
      (.call (.name "f") [.bool .or [.name "a", .name "b"], .name "c"])
    let step := Expr.conditional (.name "c") (.name "a") (.name "b")
    let loop := StmtKind.forLoop item (.call (.name "range") [start, stop, step]) [] false
    (item.wellFormed = true ∧ Expr.wellFormedAll [start, stop, step] = true ∧
      (∀ leaf ∈ item.leaves, LeafIsClear leaf) ∧
      (∀ leaf ∈ Expr.leavesAll [start, stop, step], LeafIsClear leaf) ∧
      [start, stop, step].any Expr.isStarred = false ∧ Level.access ≤ item.bond ∧
      Level.shift ≤ stop.bond ∧ (loop.render (.curly .cpp .allman) .outermost).result = .ok ()) ∧
    ∃ header,
      BraceStyle.allman.opening header <+: (loop.render (.curly .cpp .allman) .outermost).steps ∧
      readHeader? .cpp header = some ⟨"int", "i", "a << 1", "i", "<", "(p ? x : y) + f(a || b, c)",
        .assign "i" "+=" "c ? a : b"⟩ := by
  intro item start stop step loop
  have hargs : Expr.wellFormedAll [start, stop, step] = true := rfl
  have hitemClear : ∀ leaf ∈ item.leaves, LeafIsClear leaf := by decide
  have hargsClear : ∀ leaf ∈ Expr.leavesAll [start, stop, step], LeafIsClear leaf := by decide
  have hstop : Level.shift ≤ stop.bond := by decide
  have hplace : Level.access ≤ item.bond := by decide
  have hrendered : (loop.render (.curly .cpp .allman) .outermost).result = .ok () := rfl
  refine ⟨⟨rfl, hargs, hitemClear, hargsClear, rfl, hplace, hstop, hrendered⟩, ?_⟩
  obtain ⟨target, texts, spelled, header, htarget, htexts, hspelled, hsteps, hread⟩ :=
    forLoop_operands_whole rfl hargs hitemClear hargsClear rfl rfl hplace hstop hrendered
  have hitemText : item.render (.curly .cpp .allman) .outermost false = .ok "i" := rfl
  have hargTexts : Expr.renderAll (.curly .cpp .allman) .outermost false [start, stop, step] =
    .ok ["a << 1", "(p ? x : y) + f(a || b, c)", "c ? a : b"] := rfl
  obtain rfl := Except.ok.inj (htarget.symm.trans hitemText)
  obtain rfl := Except.ok.inj (htexts.symm.trans hargTexts)
  obtain rfl := Option.some.inj hspelled
  exact ⟨header, hsteps, hread⟩

/-- No condition can be left out: a conditional at the stop takes the comparison for its test, a
floor division hides the rest of the header, and a name of underscores is not written at all. -/
theorem forLoop_operands_split :
    let counted := fun (item stop : Expr) =>
      (StmtKind.forLoop item (.call (.name "range") [stop]) [] false).render
        (.curly .cpp .allman) .outermost
    let opened := fun (header : String) =>
      BraceStyle.allman.opening header ++ .indent :: .dedent :: BraceStyle.allman.ending
    ((counted (.name "i") (.conditional (.name "c") (.name "a") (.name "b"))).result = .ok () ∧
      (counted (.name "i") (.conditional (.name "c") (.name "a") (.name "b"))).steps =
        opened "for ( int i = 0; i < c ? a : b; i++ )" ∧
      readHeader? .cpp "for ( int i = 0; i < c ? a : b; i++ )" =
        some ⟨"int", "i", "0", "i < c", "?", "a : b", .increment "i"⟩) ∧
    ((counted (.name "i") (.binary (.name "n") .floorDiv (.name "k"))).steps =
        opened "for ( int i = 0; i < n // k; i++ )" ∧
      readHeader? .cpp "for ( int i = 0; i < n // k; i++ )" = none) ∧
    (counted (.name "_") (.name "n")).steps = opened "for ( int  = 0;  < n; ++ )" ∧
      readHeader? .cpp "for ( int  = 0;  < n; ++ )" = none :=
  ⟨⟨rfl, rfl, by decide +kernel⟩, ⟨rfl, by decide +kernel⟩, rfl, by decide +kernel⟩

end Loops

end Snippet
