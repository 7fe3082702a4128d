import Snippet.Proofs.Walk
import Snippet.Render.Rendering

/-!
# Rendering leaves its state as it found it

A statement changes what surrounds it only by declaring a name in the innermost scope, and its
script comes back to the level of indentation it starts at. Both hold for a rejected statement as
well, since scopes, class bodies and levels are left on the way out of a rejection. So a run never
pops the outermost scope and never takes a level away where there is none.
-/

namespace Snippet

open Comment (Record)
open Layout
open Render Script

/-! ### The level of indentation -/

namespace Layout

/-- The level after a script, unless the script takes a level away where there is none. -/
def levelAfter? : Nat → List Step → Option Nat
  | level, [] => some level
  | level, .indent :: rest => levelAfter? (level + 1) rest
  | 0, .dedent :: _ => none
  | level + 1, .dedent :: rest => levelAfter? level rest
  | level, _ :: rest => levelAfter? level rest

/-- A script that comes back to the level it starts at and never goes below it. -/
def Balanced (steps : List Step) : Prop := ∀ level, levelAfter? level steps = some level

theorem levelAfter?_append (level : Nat) (first second : List Step) :
    levelAfter? level (first ++ second) =
      (levelAfter? level first).bind (levelAfter? · second) := by
  fun_induction levelAfter? level first with
  | case1 => rfl
  | case2 level rest ih => simpa [levelAfter?] using ih
  | case3 => rfl
  | case4 level rest ih => simpa [levelAfter?] using ih
  | case5 level step rest hindent hzero hsucc ih =>
      cases step with
      | indent => exact absurd rfl hindent
      | dedent => cases level <;> simp_all
      | _ => simpa [levelAfter?] using ih

theorem Page.level_step (unit : IndentUnit) (page : Page) (step : Step) {level : Nat}
    (h : levelAfter? page.level [step] = some level) : (page.step unit step).2.level = level := by
  cases step with
  | dedent =>
      cases hlevel : page.level with
      | zero => simp [levelAfter?, hlevel] at h
      | succ below => simpa [levelAfter?, hlevel, Page.step] using h
  | _ => simpa [levelAfter?, Page.step, Page.write] using h

theorem Page.level_play (unit : IndentUnit) (page : Page) {steps : List Step} {level : Nat}
    (h : levelAfter? page.level steps = some level) : (page.play unit steps).2.level = level := by
  induction steps generalizing page with
  | nil => simpa [levelAfter?, Page.play] using h
  | cons step rest ih =>
      rw [← List.singleton_append, levelAfter?_append, Option.bind_eq_some_iff] at h
      obtain ⟨between, hstep, hrest⟩ := h
      rw [← Page.level_step unit page step hstep] at hrest
      exact ih _ hrest

/-- A script that never takes a level away where there is none is above the ground before each of
its dedents. -/
theorem Page.level_pos_of_dedent (unit : IndentUnit) (page : Page) {before after : List Step}
    {level : Nat} (h : levelAfter? page.level (before ++ .dedent :: after) = some level) :
    0 < (page.play unit before).2.level := by
  rw [levelAfter?_append, Option.bind_eq_some_iff] at h
  obtain ⟨between, hbefore, hdedent⟩ := h
  rw [Page.level_play unit page hbefore]
  cases between with
  | zero => simp [levelAfter?] at hdedent
  | succ below => exact Nat.succ_pos below

namespace Balanced

theorem nil : Balanced [] := fun _ => rfl

theorem append {first second : List Step} (h₁ : Balanced first) (h₂ : Balanced second) :
    Balanced (first ++ second) := by
  intro level
  rw [levelAfter?_append, h₁ level]
  exact h₂ level

theorem deeper {steps : List Step} (h : Balanced steps) :
    Balanced (.indent :: (steps ++ [.dedent])) := by
  intro level
  rw [levelAfter?, levelAfter?_append, h (level + 1)]
  rfl

theorem opening (style : BraceStyle) (header : String) : Balanced (style.opening header) := by
  intro level
  cases style <;> rfl

theorem middle (style : BraceStyle) (header : String) : Balanced (style.middle header) := by
  intro level
  cases style <;> rfl

theorem closing (style : BraceStyle) (closer : String) : Balanced (style.closing closer) := by
  intro level
  cases style <;> rfl

end Balanced

end Layout

theorem Target.Emits.balanced {target : Target} {steps : List Step} (h : target.Emits steps) :
    Balanced steps := by
  induction h with
  | nil => exact .nil
  | append _ _ ih₁ ih₂ => exact ih₁.append ih₂
  | line text => exact fun _ => rfl
  | deeper _ ih => exact ih.deeper
  | opening _ header => exact .opening _ header
  | middle _ header => exact .middle _ header
  | closing _ closer => exact .closing _ closer

/-- Every script of the walk is balanced, also one that a rejection cuts short. -/
theorem walked_balanced (target : Target) :
    Walked target fun script => ∀ around, Balanced (script around).steps where
  pure _ _ := .nil
  bind h₁ h₂ around := by
    rw [bind_apply]
    split
    · exact (h₁ around).append (h₂ _ _)
    · exact h₁ around
  surroundings _ := .nil
  text _ _ := .nil
  declare _ _ _ := .nil
  prepare _ _ := fun _ => rfl
  emit h _ := h.balanced
  reject _ _ := .nil
  begin? node h around := by
    rw [begin?]
    split
    · next inside steps hform => exact (h hform).2.balanced
    · exact .nil
  inScope h around := h around.pushScope
  indented className h around := (h (around.enter className)).deeper

/-! ### Scopes and classes -/

namespace Render

namespace ScopeStack

def innermost : ScopeStack → List (String × String)
  | ⟨[], outermost⟩ => outermost
  | ⟨scope :: _, _⟩ => scope

def enclosing : ScopeStack → List (List (String × String))
  | ⟨[], _⟩ => []
  | ⟨_ :: rest, outermost⟩ => rest ++ [outermost]

theorem depth_eq (scopes : ScopeStack) : scopes.depth = scopes.enclosing.length + 1 := by
  obtain ⟨inner, outermost⟩ := scopes
  cases inner <;> simp [depth, enclosing]

theorem innermost_declare (scopes : ScopeStack) (name type : String) :
    (scopes.declare name type).innermost = (name, type) :: scopes.innermost := by
  obtain ⟨inner, outermost⟩ := scopes
  cases inner <;> rfl

theorem enclosing_declare (scopes : ScopeStack) (name type : String) :
    (scopes.declare name type).enclosing = scopes.enclosing := by
  obtain ⟨inner, outermost⟩ := scopes
  cases inner <;> rfl

/-- Leaving a scope gives back the stack that it was opened on. -/
theorem pop_of_enclosing {scopes inside : ScopeStack}
    (h : inside.enclosing = scopes.push.enclosing) : inside.pop = scopes := by
  obtain ⟨inner, outermost⟩ := scopes
  obtain ⟨innerInside, outermostInside⟩ := inside
  cases innerInside with
  | nil => simp [enclosing, push] at h
  | cons scope rest =>
      obtain ⟨rfl, hlast⟩ := List.append_inj' h rfl
      cases hlast
      rfl

end ScopeStack

namespace Surroundings

/-- Two surroundings are the same but for what the innermost scope declares. -/
structure SameOutside (before after : Surroundings) : Prop where
  className : after.className = before.className
  inClass : after.inClass = before.inClass
  enclosing : after.scopes.enclosing = before.scopes.enclosing
  refusedPops : after.refusedPops = before.refusedPops

theorem Declares.sameOutside {around inside : Surroundings} (h : around.Declares inside) :
    around.SameOutside inside := by
  induction h with
  | refl => exact ⟨rfl, rfl, rfl, rfl⟩
  | declare name type _ ih =>
      exact ⟨ih.className, ih.inClass, (ScopeStack.enclosing_declare _ _ _).trans ih.enclosing,
        ih.refusedPops⟩

theorem SameOutside.depth {before after : Surroundings} (h : before.SameOutside after) :
    after.scopes.depth = before.scopes.depth := by
  rw [ScopeStack.depth_eq, ScopeStack.depth_eq, h.enclosing]

/-- Declarations in a scope of their own are gone once the scope is left, and the scope that is left
is not the outermost one. -/
theorem Declares.popScope {around inside : Surroundings} (h : around.pushScope.Declares inside) :
    inside.popScope = around := by
  obtain ⟨hclass, hin, henclosing, hpops⟩ := h.sameOutside
  have hscopes : inside.scopes.pop = around.scopes := ScopeStack.pop_of_enclosing henclosing
  have hdepth : inside.scopes.depth ≠ 1 := by
    rw [h.sameOutside.depth]
    simp [pushScope, ScopeStack.push, ScopeStack.depth]
  rw [Surroundings.popScope, hscopes, if_neg hdepth, hclass, hin, hpops]
  rfl

theorem Declares.leave {around inside : Surroundings} {className : Option String}
    (h : (around.enter className).Declares inside) : around.Declares (inside.leave around) := by
  induction h with
  | refl => exact .refl
  | declare name type _ ih => exact ih.declare name type

end Surroundings

namespace Script

/-- All that a script does to its surroundings is to declare names in the innermost scope. -/
def OnlyDeclares {α : Type} (script : Script α) : Prop :=
  ∀ around : Surroundings, around.Declares (script around).around

/-- A script that leaves its surroundings exactly as they were. -/
def Restores {α : Type} (script : Script α) : Prop := ∀ around, (script around).around = around

namespace Restores

variable {α β : Type}

theorem onlyDeclares {script : Script α} (h : Restores script) : OnlyDeclares script := by
  intro around
  rw [h around]
  exact .refl

theorem bind {first : Script α} {next : α → Script β} (h₁ : Restores first)
    (h₂ : ∀ a, Restores (next a)) : Restores (first >>= next) := by
  intro around
  rw [bind_apply]
  split
  · next a hresult => exact (h₂ a _).trans (h₁ around)
  · exact h₁ around

theorem emit (steps : List Step) : Restores (Script.emit steps) := fun _ => rfl

theorem text (render : Surroundings → Except Rejection α) : Restores (Script.text render) :=
  fun _ => rfl

theorem emit? (target : Target) (node : RejectedNode) (form : Option (List Step)) :
    Restores (Script.emit? target node form) := by
  intro around
  cases form <;> rfl

theorem inScope {body : Script α} (h : OnlyDeclares body) : Restores (Script.inScope body) :=
  fun around => (h around.pushScope).popScope

theorem block (className : Option String) {body : Script α} (h : OnlyDeclares body) :
    Restores (Script.block className body) := by
  intro around
  have hinside := inScope h (around.enter className)
  rw [Script.block, indented, hinside]
  rfl

end Restores

end Script

end Render

/-- Every script of the walk only declares names, also one that a rejection cuts short. -/
theorem walked_onlyDeclares (target : Target) : Walked target OnlyDeclares where
  pure _ _ := .refl
  bind h₁ h₂ around := by
    rw [bind_apply]
    split
    · exact (h₁ around).trans (h₂ _ _)
    · exact h₁ around
  surroundings _ := .refl
  text _ _ := .refl
  declare name type _ := .declare name type .refl
  prepare _ _ := .refl
  emit _ _ := .refl
  reject _ _ := .refl
  begin? node h around := by
    rw [Script.begin?.eq_def]
    split
    · next inside steps hform => exact (h hform).1
    · exact .refl
  inScope h := (Restores.inScope h).onlyDeclares
  indented className h around := (h (around.enter className)).leave

/-! ### Statements -/

namespace Stmt

/-- The name that a statement declares where it stands: the plain name of an annotated
assignment. -/
def declared? : Stmt → Option String
  | .mk _ (.annAssign (.name ident) _ _) => some ident
  | _ => none

end Stmt

theorem renderDocumentation_restores (target : Target) (body : List Stmt) :
    Restores (renderDocumentation target body) := by
  cases body with
  | nil => exact fun _ => rfl
  | cons first rest =>
      rw [renderDocumentation]
      split
      · exact .emit _
      · exact fun _ => rfl

section Statements

variable (target : Target)

theorem renderOtherwise_restores (line : UInt64) {body : Script Unit} (h : OnlyDeclares body) :
    Restores (do
      emit [.prepare line]
      emit target.beginElse
      block none body) :=
  .bind (.emit _) fun _ => .bind (.emit _) fun _ => .block none h

theorem renderOrelse_restores (orelse : List Stmt) :
    Restores (Stmt.renderOrelse target orelse) := by
  have all := (walked_onlyDeclares target).all orelse
  cases orelse with
  | nil =>
      rw [Stmt.renderOrelse]
      exact fun _ => rfl
  | cons first rest =>
      rw [Stmt.renderAll] at all
      cases rest with
      | nil =>
          obtain ⟨line, kind⟩ := first
          cases kind with
          | branch test body orelse =>
              rw [Stmt.renderOrelse]
              refine .bind (.emit _) fun _ => .bind (.text _) fun _ => .bind (.emit _) fun _ => ?_
              refine .bind (.block _ ((walked_onlyDeclares target).all body)) fun _ => ?_
              exact renderOrelse_restores orelse
          | _ =>
              rw [Stmt.renderOrelse]
              · exact renderOtherwise_restores target _ all
              · simp
      | cons second rest =>
          rw [Stmt.renderOrelse]
          · exact renderOtherwise_restores target _ all
          · simp

/-- Whatever a statement declares inside is gone after it, unless the statement is itself the
declaration of a plain name. -/
theorem renderKind_restores (kind : StmtKind)
    (h : ∀ ident hint value, kind ≠ .annAssign (.name ident) hint value) :
    Restores (kind.render target) := by
  have inner := (walked_onlyDeclares target).all
  have body := (walked_onlyDeclares target).undocumented
  cases kind with
  | classDef name bases stmts =>
      rw [StmtKind.render]
      refine .bind (renderDocumentation_restores target stmts) fun _ => .bind (.text _) fun _ => ?_
      refine .bind (.emit? _ _ _) fun _ => .bind (.block _ (body stmts)) fun _ => .emit? _ _ _
  | functionDef header stmts =>
      rw [StmtKind.render]
      refine .bind (renderDocumentation_restores target stmts) fun _ => ?_
      refine .bind (fun _ => rfl) fun _ => .bind (.text _) fun _ => .inScope ?_
      exact (walked_onlyDeclares target).function header stmts _ _ (body stmts)
  | assign targets value =>
      rw [StmtKind.render]
      exact .bind (.text _) fun _ => .bind (.text _) fun _ => .emit _
  | annAssign declared hint value =>
      have hdeclare : ∀ type, Restores (declareTarget declared type) := by
        intro type around
        cases declared with
        | name ident => exact absurd rfl (h ident hint value)
        | _ => rfl
      rw [StmtKind.render]
      refine .bind (.text _) fun _ => .bind (hdeclare _) fun _ => .bind (.text _) fun _ => ?_
      exact .bind (.text _) fun _ => .bind (fun _ => rfl) fun _ => .emit _
  | augAssign assigned op value =>
      rw [StmtKind.render]
      exact .bind (.text _) fun _ => .bind (.text _) fun _ => .emit _
  | branch test stmts orelse =>
      rw [StmtKind.render]
      refine .bind (.text _) fun _ => .bind (.emit _) fun _ => .bind (.block _ (inner stmts)) ?_
      exact fun _ => .bind (renderOrelse_restores target orelse) fun _ => .emit _
  | forLoop item iter stmts isAsync =>
      rw [StmtKind.render]
      refine .bind (.text _) fun _ => .bind (.text _) fun _ => .bind (.emit? _ _ _) fun _ => ?_
      exact .bind (.block _ (inner stmts)) fun _ => .emit _
  | whileLoop test stmts =>
      rw [StmtKind.render]
      refine .bind (.text _) fun _ => .bind (.emit _) fun _ => ?_
      exact .bind (.block _ (inner stmts)) fun _ => .emit _
  | switch subject cases =>
      rw [StmtKind.render]
      refine .bind (.text _) fun _ => .bind (.emit? _ _ _) fun _ => ?_
      exact .bind (.block _ ((walked_onlyDeclares target).cases _ cases)) fun _ => .emit _
  | returning value =>
      rw [StmtKind.render]
      exact .bind (.text _) fun _ => .emit _
  | delete targets =>
      rw [StmtKind.render]
      exact .bind (.text _) fun _ => .emit? _ _ _
  | typeAlias name value =>
      rw [StmtKind.render]
      exact .bind (.text _) fun _ => .bind (.text _) fun _ => .emit? _ _ _
  | imports names =>
      rw [StmtKind.render]
      exact .emit? _ _ _
  | importFrom module names =>
      rw [StmtKind.render]
      exact .emit? _ _ _
  | expr value =>
      rw [StmtKind.render.eq_def]
      cases value with
      | constant value => exact .emit _
      | _ => exact .bind (.text _) fun _ => .emit _
  | pass =>
      rw [StmtKind.render]
      exact fun _ => rfl
  | breakLoop =>
      rw [StmtKind.render]
      exact .emit _
  | continueLoop =>
      rw [StmtKind.render]
      exact .emit _

/-- An annotated assignment to a plain name declares that name, unless its type is rejected. -/
theorem renderDeclaration_around (ident : String) (hint : Expr) (value : Option Expr)
    (around : Surroundings) :
    (∃ rejection, hint.render target around true = .error rejection ∧
      ((StmtKind.annAssign (.name ident) hint value).render target around).around = around) ∨
    ∃ type, hint.render target around true = .ok type ∧
      ((StmtKind.annAssign (.name ident) hint value).render target around).around =
        around.declare ident type := by
  have hrest : ∀ type, Restores (do
      let name ← renderExpr target (.name ident)
      let text ← renderOptionalExpr target value
      let around ← surroundings
      emit (target.declare around ⟨name, type, text, value.any Expr.isCall⟩)) := by
    intro type
    refine .bind (.text _) fun _ => .bind (.text _) fun _ => .bind (fun _ => rfl) fun _ => .emit _
  rw [StmtKind.render, bind_apply]
  split
  · next type hresult => exact .inr ⟨type, hresult, hrest type (around.declare ident type)⟩
  · next rejection hresult => exact .inl ⟨rejection, hresult, rfl⟩

end Statements

structure Stmt.Keeps (stmt : Stmt) (before after : Surroundings) : Prop where
  className : after.className = before.className
  inClass : after.inClass = before.inClass
  depth : after.scopes.depth = before.scopes.depth
  enclosing : after.scopes.enclosing = before.scopes.enclosing
  /-- The innermost scope differs at most at the name that the statement declares. -/
  innermost : ∀ name, stmt.declared? ≠ some name →
    after.scopes.innermost.lookup name = before.scopes.innermost.lookup name
  scopes : stmt.declared? = none → after.scopes = before.scopes
  refusedPops : after.refusedPops = before.refusedPops

theorem Stmt.Keeps.refl (stmt : Stmt) (around : Surroundings) : stmt.Keeps around around :=
  ⟨rfl, rfl, rfl, rfl, fun _ _ => rfl, fun _ => rfl, rfl⟩

theorem Stmt.keeps_declare (line : UInt64) (ident : String) (hint : Expr) (value : Option Expr)
    (around : Surroundings) (type : String) :
    (Stmt.mk line (.annAssign (.name ident) hint value)).Keeps around (around.declare ident type) := by
  have hsame := (Surroundings.Declares.refl.declare ident type : around.Declares _).sameOutside
  refine ⟨rfl, rfl, hsame.depth, hsame.enclosing, ?_, ?_, rfl⟩
  · intro name hname
    have hne : (name == ident) = false := by
      refine beq_false_of_ne ?_
      rintro rfl
      exact hname rfl
    rw [Surroundings.declare, ScopeStack.innermost_declare, List.lookup_cons, hne]
  · intro hnone
    cases hnone

theorem Stmt.render_keeps (target : Target) (stmt : Stmt) (around : Surroundings) :
    stmt.Keeps around (stmt.render target around).around := by
  obtain ⟨line, kind⟩ := stmt
  have hkind : ((Stmt.mk line kind).render target around).around =
      (kind.render target around).around := by
    rw [Stmt.render, bind_apply]
    rfl
  rw [hkind]
  -- A declaration of a plain name is the one statement that does not restore its surroundings.
  by_cases hplain : ∃ ident hint value, kind = .annAssign (.name ident) hint value
  · obtain ⟨ident, hint, value, rfl⟩ := hplain
    rcases renderDeclaration_around target ident hint value around with
      ⟨-, -, hsame⟩ | ⟨type, -, hdeclared⟩
    · rw [hsame]
      exact .refl _ around
    · rw [hdeclared]
      exact keeps_declare line ident hint value around type
  · rw [renderKind_restores target kind fun ident hint value heq => hplain ⟨_, _, _, heq⟩]
    exact .refl _ around

/-- **Balanced render state.** A statement, accepted or rejected, comes back to the level, the
class and the scopes it starts with, but for a declaration of its own in the innermost scope; a
block keeps the whole stack of scopes. No run leaves the outermost scope, and none takes a level of
indentation away where there is none. -/
theorem render_balanced (target : Target) (unit : IndentUnit) :
    (∀ (stmt : Stmt) (around : Surroundings) (page : Page),
      stmt.Keeps around (stmt.render target around).around ∧
        (page.play unit (stmt.render target around).steps).2.level = page.level) ∧
    (∀ (body : List Stmt) (around : Surroundings),
      (inScope (Stmt.renderAll target body) around).around.scopes = around.scopes) ∧
    ∀ (program : Program) (records : List Record),
      (program.script target .outermost).around.refusedPops = 0 ∧
        ∀ before after, (program.script target .outermost).steps = before ++ .dedent :: after →
          0 < ((Page.ofRecords records).play unit before).2.level := by
  refine ⟨fun stmt around page => ⟨stmt.render_keeps target around, ?_⟩, fun body around => ?_,
    fun program records => ⟨?_, fun before after hsteps => ?_⟩⟩
  · exact Page.level_play unit page ((walked_balanced target).stmt stmt around page.level)
  · rw [Restores.inScope ((walked_onlyDeclares target).all body)]
  · exact ((walked_onlyDeclares target).program program .outermost).sameOutside.refusedPops
  · have hbalanced := (walked_balanced target).program program .outermost
    rw [hsteps] at hbalanced
    exact Page.level_pos_of_dedent unit (Page.ofRecords records) (hbalanced _)

end Snippet
