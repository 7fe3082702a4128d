import Snippet.Proofs.Walk

/-!
# Where a walk stops

A walk over a tree prepares for the line of every statement, of every branch after the first of its
chain and of every arm of a `match`. These stops cut the script into turns. A stop that has others
inside writes a line of code before it comes to them, so a turn without code is the turn of a
statement that writes nothing.
-/

namespace Snippet

open Layout (Step BraceStyle)
open Render Script

/-- What a walk prepares for: a statement or an `elif`, the statements under an `else`, an arm. -/
inductive Stop where
  | stmt (stmt : Stmt)
  | otherwise (first : Stmt)
  | arm (arm : MatchCase)

def MatchCase.line : MatchCase → UInt64
  | .mk line _ _ => line

/-- The line that is prepared for, which is that of the first statement under an `else`. -/
def Stop.word : Stop → UInt64
  | .stmt node => node.line
  | .otherwise first => first.line
  | .arm node => node.line

def Stop.line (stop : Stop) : Nat := stop.word.toNat

mutual

def Stmt.stops : Stmt → List Stop
  | .mk line kind => .stmt (.mk line kind) :: kind.stops

/-- The stops inside a statement, in the order in which a walk comes to them. -/
def StmtKind.stops : StmtKind → List Stop
  | .classDef _ _ body => Stmt.stopsUndocumented body
  | .functionDef _ body => Stmt.stopsUndocumented body
  | .branch _ body orelse => Stmt.stopsAll body ++ Stmt.stopsOrelse orelse
  | .forLoop _ _ body _ => Stmt.stopsAll body
  | .whileLoop _ body => Stmt.stopsAll body
  | .switch _ cases => MatchCase.stopsAll cases
  | _ => []

def Stmt.stopsAll : List Stmt → List Stop
  | [] => []
  | stmt :: rest => stmt.stops ++ Stmt.stopsAll rest

/-- A documentation text is no stop of its own. -/
def Stmt.stopsUndocumented : List Stmt → List Stop
  | [] => []
  | stmt :: rest =>
    if stmt.docText?.isSome then Stmt.stopsAll rest else stmt.stops ++ Stmt.stopsAll rest

def Stmt.stopsOrelse : List Stmt → List Stop
  | [] => []
  | [.mk line (.branch test body orelse)] =>
    .stmt (.mk line (.branch test body orelse)) :: (Stmt.stopsAll body ++ Stmt.stopsOrelse orelse)
  | stmt :: rest => .otherwise stmt :: (stmt.stops ++ Stmt.stopsAll rest)

def MatchCase.stops : MatchCase → List Stop
  | .mk line pattern body => .arm (.mk line pattern body) :: Stmt.stopsAll body

def MatchCase.stopsAll : List MatchCase → List Stop
  | [] => []
  | arm :: rest => arm.stops ++ MatchCase.stopsAll rest

end

def Program.stops (program : Program) : List Stop := Stmt.stopsAll program.body

/-- Whether a stop is a statement with no other stops inside. -/
def Stop.isSimple : Stop → Bool
  | .stmt node => node.kind.stops.isEmpty
  | .otherwise _ | .arm _ => false

/-! ### Scripts and their stops -/

namespace Layout

/-- Whether the page stays at the line it stands at. -/
def Step.stays : Step → Bool
  | .prepare _ => false
  | _ => true

/-- Whether a line of code comes before the next line that is prepared for. -/
def writesFirst : List Step → Bool
  | [] => false
  | .code .. :: _ => true
  | .prepare _ :: _ => false
  | _ :: rest => writesFirst rest

end Layout

open Layout (writesFirst)

/-- A script prepares for the lines of the stops, one after another. A stop with others inside
writes before it comes to them. -/
inductive Halts : List Stop → List Step → Prop where
  | nil : Halts [] []
  | step {stops : List Stop} {step : Step} {steps : List Step} (hstep : step.stays = true)
      (h : Halts stops steps) : Halts stops (step :: steps)
  | stop {stops : List Stop} {steps : List Step} (stop : Stop)
      (hwrites : stop.isSimple = true ∨ writesFirst steps = true) (h : Halts stops steps) :
      Halts (stop :: stops) (.prepare stop.word :: steps)

theorem Layout.writesFirst_append {first : List Step} (h : writesFirst first = true)
    (second : List Step) : writesFirst (first ++ second) = true := by
  induction first with
  | nil => cases h
  | cons step rest ih =>
      cases step with
      | code text comments offset => rfl
      | prepare line => cases h
      | _ => exact ih h

namespace Halts

theorem append {before after : List Stop} {first second : List Step} (h₁ : Halts before first)
    (h₂ : Halts after second) : Halts (before ++ after) (first ++ second) := by
  induction h₁ with
  | nil => exact h₂
  | step hstep _ ih => exact .step hstep ih
  | stop stop hwrites _ ih =>
      exact .stop stop (hwrites.imp_right fun h => Layout.writesFirst_append h second) ih

theorem of_all_stays {steps : List Step} (h : steps.all Step.stays = true) : Halts [] steps := by
  induction steps with
  | nil => exact .nil
  | cons step rest ih =>
      rw [List.all_cons, Bool.and_eq_true] at h
      exact .step h.1 (ih h.2)

theorem deeper {stops : List Stop} {steps : List Step} (h : Halts stops steps) :
    Halts stops (.indent :: (steps ++ [.dedent])) := by
  have hdedent : Halts [] [.dedent] := .step rfl .nil
  have hsteps := h.append hdedent
  rw [List.append_nil] at hsteps
  exact .step rfl hsteps

/-- A script that stops nowhere leaves the first line of code of the next to be written first. -/
theorem writesFirst_append {first second : List Step} (h : Halts [] first)
    (hsecond : writesFirst second = true) : writesFirst (first ++ second) = true := by
  generalize hstops : ([] : List Stop) = stops at h
  induction h with
  | nil => exact hsecond
  | @step _ step steps hstep _ ih =>
      have hrest := ih hstops
      cases step with
      | code text comments offset => rfl
      | prepare line => cases hstep
      | _ => exact hrest
  | stop => cases hstops

end Halts

/-- The steps of a hook stop nowhere. -/
theorem Target.Emits.halts {target : Target} {steps : List Step} (h : target.Emits steps) :
    Halts [] steps := by
  induction h with
  | nil => exact .nil
  | append _ _ ih₁ ih₂ => exact ih₁.append ih₂
  | line text => exact .step rfl .nil
  | deeper _ ih => exact ih.deeper
  | @opening dialect style _ header => exact .of_all_stays (by cases style <;> rfl)
  | @middle dialect style _ header => exact .of_all_stays (by cases style <;> rfl)
  | @closing dialect style _ closer => exact .of_all_stays (by cases style <;> rfl)

/-! ### What begins a block writes -/

namespace Target

variable {target : Target}

theorem writesFirst_opening (style : BraceStyle) (header : String) :
    writesFirst (style.opening header) = true := by
  cases style <;> rfl

theorem writesFirst_middle (style : BraceStyle) (header : String) :
    writesFirst (style.middle header) = true := by
  cases style <;> rfl

theorem writesFirst_beginClass {name : String} {bases : List String} {steps : List Step}
    (h : target.beginClass? name bases = some steps) : writesFirst steps = true := by
  cases target with
  | curly dialect style =>
      obtain rfl : style.opening (dialect.classHeader name bases) = steps := by
        simpa [beginClass?] using h
      exact writesFirst_opening _ _
  | pseudocode subject => cases h

theorem writesFirst_beginFunction {around inside : Surroundings} {signature : Signature}
    {steps : List Step} (h : target.beginFunction? around signature = some (inside, steps)) :
    writesFirst steps = true := by
  cases target with
  | curly dialect style =>
      simp only [beginFunction?, Option.map_eq_some_iff, Prod.mk.injEq] at h
      obtain ⟨header, -, -, rfl⟩ := h
      exact writesFirst_opening _ _
  | pseudocode subject =>
      simp only [beginFunction?, Option.some.injEq, Pseudocode.beginFunction] at h
      split at h <;> (obtain ⟨-, rfl⟩ := Prod.mk.inj h; rfl)

theorem writesFirst_beginIf (test : String) : writesFirst (target.beginIf test) = true := by
  cases target with
  | curly dialect style => exact writesFirst_opening _ _
  | pseudocode subject => rfl

theorem writesFirst_beginElif (test : String) : writesFirst (target.beginElif test) = true := by
  cases target with
  | curly dialect style => exact writesFirst_middle _ _
  | pseudocode subject => rfl

theorem writesFirst_beginElse : writesFirst target.beginElse = true := by
  cases target with
  | curly dialect style => exact writesFirst_middle _ _
  | pseudocode subject => rfl

theorem writesFirst_beginFor {item : String} {items : LoopItems} {isAsync : Bool}
    {steps : List Step} (h : target.beginFor? item items isAsync = some steps) :
    writesFirst steps = true := by
  cases target with
  | curly dialect style =>
      simp only [beginFor?, Option.map_eq_some_iff] at h
      obtain ⟨header, -, rfl⟩ := h
      exact writesFirst_opening _ _
  | pseudocode subject =>
      obtain rfl := Option.some.inj h
      rfl

theorem writesFirst_beginWhile (test : String) : writesFirst (target.beginWhile test) = true := by
  cases target with
  | curly dialect style => exact writesFirst_opening _ _
  | pseudocode subject => rfl

theorem writesFirst_beginSwitch {subject : String} {steps : List Step}
    (h : target.beginSwitch? subject = some steps) : writesFirst steps = true := by
  cases target with
  | curly dialect style =>
      obtain rfl := Option.some.inj h
      exact writesFirst_opening _ _
  | pseudocode narrated => cases h

theorem writesFirst_beginCase {pattern : Option String} {steps : List Step}
    (h : target.beginCase? pattern = some steps) : writesFirst steps = true := by
  cases target with
  | curly dialect style => cases pattern <;> (obtain rfl := Option.some.inj h; rfl)
  | pseudocode subject => cases h

end Target

/-! ### Scripts that are not rejected -/

namespace Render.Script

variable {α β : Type} {target : Target}

/-- Where a script is not rejected, it stops at the stops. -/
def HaltsAt (stops : List Stop) (script : Script α) : Prop :=
  ∀ around a, (script around).result = .ok a → Halts stops (script around).steps

/-- Where a script is not rejected, it writes a line of code before it stops anywhere. -/
def WritesFirst (script : Script α) : Prop :=
  ∀ around a, (script around).result = .ok a → writesFirst (script around).steps = true

theorem exists_of_bind_ok {first : Script α} {next : α → Script β} {around : Surroundings} {b : β}
    (h : ((first >>= next) around).result = .ok b) :
    ∃ a, (first around).result = .ok a ∧ (next a (first around).around).result = .ok b ∧
      ((first >>= next) around).steps =
        (first around).steps ++ (next a (first around).around).steps := by
  rw [bind_apply] at h ⊢
  cases hfirst : (first around).result with
  | error rejection => simp [hfirst] at h
  | ok a => exact ⟨a, rfl, by simpa [hfirst] using h, by simp⟩

theorem HaltsAt.bind {before after : List Stop} {first : Script α} {next : α → Script β}
    (h₁ : HaltsAt before first) (h₂ : ∀ a, HaltsAt after (next a)) :
    HaltsAt (before ++ after) (first >>= next) := by
  intro around b hb
  obtain ⟨a, hfirst, hnext, hsteps⟩ := exists_of_bind_ok hb
  rw [hsteps]
  exact (h₁ around a hfirst).append (h₂ a _ b hnext)

theorem HaltsAt.text (render : Surroundings → Except Rejection α) : HaltsAt [] (Script.text render) :=
  fun _ _ _ => .nil

theorem HaltsAt.surroundings : HaltsAt [] Script.surroundings := fun _ _ _ => .nil

theorem HaltsAt.emit {steps : List Step} (h : target.Emits steps) : HaltsAt [] (Script.emit steps) :=
  fun _ _ _ => h.halts

theorem HaltsAt.emit? (node : RejectedNode) {form : Option (List Step)}
    (h : ∀ {steps}, form = some steps → target.Emits steps) :
    HaltsAt [] (Script.emit? target node form) := by
  intro around a ha
  cases form with
  | none => cases ha
  | some steps => exact (h rfl).halts

theorem HaltsAt.block {stops : List Stop} (className : Option String) {body : Script α}
    (h : HaltsAt stops body) : HaltsAt stops (Script.block className body) :=
  fun _ a ha => (h _ a ha).deeper

theorem WritesFirst.bind {first : Script α} {next : α → Script β} (h : WritesFirst first) :
    WritesFirst (first >>= next) := by
  intro around b hb
  obtain ⟨a, hfirst, -, hsteps⟩ := exists_of_bind_ok hb
  rw [hsteps]
  exact Layout.writesFirst_append (h around a hfirst) _

theorem WritesFirst.after {first : Script α} {next : α → Script β} (h₁ : HaltsAt [] first)
    (h₂ : ∀ a, WritesFirst (next a)) : WritesFirst (first >>= next) := by
  intro around b hb
  obtain ⟨a, hfirst, hnext, hsteps⟩ := exists_of_bind_ok hb
  rw [hsteps]
  exact (h₁ around a hfirst).writesFirst_append (h₂ a _ b hnext)

theorem HaltsAt.last {stops : List Stop} {first : Script α} {next : α → Script β}
    (h₁ : HaltsAt stops first) (h₂ : ∀ a, HaltsAt [] (next a)) : HaltsAt stops (first >>= next) := by
  rw [← List.append_nil stops]
  exact h₁.bind h₂

theorem HaltsAt.prepare {stops : List Stop} (stop : Stop) {script : Script Unit}
    (h : HaltsAt stops script) (hwrites : stop.isSimple = true ∨ WritesFirst script) :
    HaltsAt (stop :: stops) (Script.emit [.prepare stop.word] >>= fun _ => script) := by
  intro around b hb
  obtain ⟨a, -, hnext, hsteps⟩ := exists_of_bind_ok hb
  rw [hsteps]
  exact .stop stop (hwrites.imp_right fun hw => hw _ b hnext) (h _ b hnext)

/-- A script that stops at the stops, and writes before it does so. -/
structure Enters (stops : List Stop) (script : Script α) : Prop where
  halts : HaltsAt stops script
  writes : WritesFirst script

namespace Enters

variable {stops : List Stop}

theorem after {first : Script α} {next : α → Script β} (h₁ : HaltsAt [] first)
    (h₂ : ∀ a, Enters stops (next a)) : Enters stops (first >>= next) :=
  ⟨h₁.bind fun a => (h₂ a).halts, .after h₁ fun a => (h₂ a).writes⟩

theorem emit {steps : List Step} {next : Unit → Script β} (h : target.Emits steps)
    (hwrites : writesFirst steps = true) (hnext : ∀ a, HaltsAt stops (next a)) :
    Enters stops (Script.emit steps >>= next) :=
  ⟨(HaltsAt.emit h).bind hnext, .bind fun _ _ _ => hwrites⟩

theorem emit? (node : RejectedNode) {form : Option (List Step)} {next : Unit → Script β}
    (h : ∀ {steps}, form = some steps → target.Emits steps)
    (hwrites : ∀ {steps}, form = some steps → writesFirst steps = true)
    (hnext : ∀ a, HaltsAt stops (next a)) :
    Enters stops (Script.emit? target node form >>= next) := by
  refine ⟨(HaltsAt.emit? node h).bind hnext, .bind fun around a ha => ?_⟩
  cases form with
  | none => cases ha
  | some steps => exact hwrites rfl

theorem beginFunction (node : RejectedNode) (signature : Signature) {next : Unit → Script β}
    (hnext : ∀ a, HaltsAt stops (next a)) :
    Enters stops ((Script.begin? target node fun around =>
      target.beginFunction? around signature) >>= next) := by
  have hsteps : ∀ around a, (Script.begin? target node (fun around =>
      target.beginFunction? around signature) around).result = .ok a →
      ∃ inside steps, target.beginFunction? around signature = some (inside, steps) ∧
        (Script.begin? target node (fun around =>
          target.beginFunction? around signature) around).steps = steps := by
    intro around a ha
    rw [begin?] at ha ⊢
    split at ha
    · next inside steps hform => exact ⟨inside, steps, hform, rfl⟩
    · cases ha
  have hbegin : HaltsAt [] (Script.begin? target node fun around =>
      target.beginFunction? around signature) := by
    intro around a ha
    obtain ⟨inside, steps, hform, rfl⟩ := hsteps around a ha
    exact (Target.beginFunction_spec hform).2.halts
  refine ⟨hbegin.bind hnext, .bind fun around a ha => ?_⟩
  obtain ⟨inside, steps, hform, rfl⟩ := hsteps around a ha
  exact Target.writesFirst_beginFunction hform

theorem inScope {body : Script α} (h : Enters stops body) : Enters stops (Script.inScope body) :=
  ⟨fun _ a ha => h.halts _ a ha, fun _ a ha => h.writes _ a ha⟩

end Enters

end Render.Script

/-! ### The induction over the tree -/

section Tree

variable (target : Target)

theorem renderDocumentation_haltsAt (body : List Stmt) :
    HaltsAt [] (renderDocumentation target body) := by
  cases body with
  | nil => exact fun _ _ _ => .nil
  | cons first rest =>
      rw [renderDocumentation]
      cases first.docText? with
      | none => exact fun _ _ _ => .nil
      | some text => exact .emit (Target.emits_docComment _)

theorem renderOtherwise_haltsAt (first : Stmt) {stops : List Stop} {body : Script Unit}
    (h : HaltsAt stops body) :
    HaltsAt (.otherwise first :: stops) (do
      Script.emit [.prepare first.line]
      Script.emit target.beginElse
      Script.block none body) := by
  have henters : Enters stops (do
      Script.emit target.beginElse
      Script.block none body) :=
    .emit Target.emits_beginElse Target.writesFirst_beginElse fun _ => h.block none
  exact henters.halts.prepare (.otherwise first) (.inr henters.writes)

theorem renderPattern_haltsAt (pattern : Expr) : HaltsAt [] (renderPattern target pattern) := by
  rw [renderPattern.eq_def]
  split
  · exact fun _ _ _ => .nil
  · exact (HaltsAt.text _).bind fun _ _ _ _ => .nil

mutual

theorem Stmt.render_haltsAt : (stmt : Stmt) → HaltsAt stmt.stops (stmt.render target)
  | .mk line kind => by
      rw [Stmt.render, Stmt.stops]
      rcases StmtKind.render_enters kind with ⟨hsimple, hhalts⟩ | henters
      · refine HaltsAt.prepare (.stmt (.mk line kind)) ?_ (.inl ?_)
        · rwa [hsimple]
        · rw [Stop.isSimple, Stmt.kind, hsimple]
          rfl
      · exact HaltsAt.prepare (.stmt (.mk line kind)) henters.halts (.inr henters.writes)

theorem StmtKind.render_enters : (kind : StmtKind) →
    (kind.stops = [] ∧ HaltsAt [] (kind.render target)) ∨
      Enters kind.stops (kind.render target)
  | .classDef name bases body => by
      rw [StmtKind.render, StmtKind.stops]
      refine .inr (.after (renderDocumentation_haltsAt target body) fun _ => ?_)
      refine .after (.text _) fun _ => ?_
      refine .emit? _ Target.emits_beginClass Target.writesFirst_beginClass fun _ => ?_
      refine (Stmt.renderUndocumented_haltsAt body).block _ |>.last fun _ => ?_
      exact .emit? _ Target.emits_endClass
  | .functionDef header body => by
      rw [StmtKind.render, StmtKind.stops]
      refine .inr (.after (renderDocumentation_haltsAt target body) fun _ => ?_)
      refine .after .surroundings fun _ => .after (.text _) fun _ => .inScope ?_
      refine .after ((HaltsAt.text _).bind fun _ _ _ _ => .nil) fun signature => ?_
      refine .beginFunction _ signature fun _ => ?_
      refine (Stmt.renderUndocumented_haltsAt body).block none |>.last fun _ => ?_
      exact .emit Target.emits_endFunction
  | .assign targets value => by
      rw [StmtKind.render]
      refine .inl ⟨rfl, (HaltsAt.text _).bind fun _ => (HaltsAt.text _).bind fun _ => ?_⟩
      exact .emit (Target.emits_assign _ _)
  | .annAssign declared hint value => by
      have hdeclare : ∀ type, HaltsAt [] (declareTarget declared type) := by
        intro type around a ha
        cases declared <;> exact .nil
      rw [StmtKind.render]
      refine .inl ⟨rfl, (HaltsAt.text _).bind fun type => (hdeclare type).bind fun _ => ?_⟩
      refine (HaltsAt.text _).bind fun _ => (HaltsAt.text _).bind fun _ => ?_
      exact HaltsAt.surroundings.bind fun _ => .emit (Target.emits_declare _ _)
  | .augAssign assigned op value => by
      rw [StmtKind.render]
      refine .inl ⟨rfl, (HaltsAt.text _).bind fun _ => (HaltsAt.text _).bind fun _ => ?_⟩
      exact .emit (Target.emits_assignOp _ _ _)
  | .branch test body orelse => by
      rw [StmtKind.render, StmtKind.stops]
      refine .inr (.after (.text _) fun _ => ?_)
      refine .emit (Target.emits_beginIf _) (Target.writesFirst_beginIf _) fun _ => ?_
      refine (Stmt.renderAll_haltsAt body).block none |>.bind fun _ => ?_
      exact (Stmt.renderOrelse_haltsAt orelse).last fun _ => .emit Target.emits_endBlock
  | .forLoop item iter body isAsync => by
      rw [StmtKind.render, StmtKind.stops]
      refine .inr (.after (.text _) fun _ => .after (.text _) fun _ => ?_)
      refine .emit? _ Target.emits_beginFor Target.writesFirst_beginFor fun _ => ?_
      refine (Stmt.renderAll_haltsAt body).block none |>.last fun _ => ?_
      exact .emit Target.emits_endBlock
  | .whileLoop test body => by
      rw [StmtKind.render, StmtKind.stops]
      refine .inr (.after (.text _) fun _ => ?_)
      refine .emit (Target.emits_beginWhile _) (Target.writesFirst_beginWhile _) fun _ => ?_
      refine (Stmt.renderAll_haltsAt body).block none |>.last fun _ => ?_
      exact .emit Target.emits_endBlock
  | .pass => by
      rw [StmtKind.render]
      exact .inl ⟨rfl, fun _ _ _ => .nil⟩
  | .breakLoop => by
      rw [StmtKind.render]
      exact .inl ⟨rfl, .emit (Target.emits_keywordStatement _)⟩
  | .continueLoop => by
      rw [StmtKind.render]
      exact .inl ⟨rfl, .emit (Target.emits_keywordStatement _)⟩
  | .returning value => by
      rw [StmtKind.render]
      exact .inl ⟨rfl, (HaltsAt.text _).bind fun _ => .emit (Target.emits_returning _)⟩
  | .switch subject cases => by
      rw [StmtKind.render, StmtKind.stops]
      refine .inr (.after (.text _) fun _ => ?_)
      refine .emit? _ Target.emits_beginSwitch Target.writesFirst_beginSwitch fun _ => ?_
      refine (MatchCase.renderAll_haltsAt _ cases).block none |>.last fun _ => ?_
      exact .emit Target.emits_endBlock
  | .imports names => by
      rw [StmtKind.render]
      exact .inl ⟨rfl, .emit? _ Target.emits_imports⟩
  | .importFrom module names => by
      rw [StmtKind.render]
      exact .inl ⟨rfl, .emit? _ Target.emits_importFrom⟩
  | .delete targets => by
      rw [StmtKind.render]
      exact .inl ⟨rfl, (HaltsAt.text _).bind fun _ => .emit? _ Target.emits_delete⟩
  | .typeAlias name value => by
      rw [StmtKind.render]
      refine .inl ⟨rfl, (HaltsAt.text _).bind fun _ => (HaltsAt.text _).bind fun _ => ?_⟩
      exact .emit? _ Target.emits_typeAlias
  | .expr value => by
      rw [StmtKind.render.eq_def]
      refine .inl ⟨rfl, ?_⟩
      cases value with
      | constant value => exact .emit (Target.emits_comment _)
      | _ => exact (HaltsAt.text _).bind fun _ => .emit (Target.emits_expressionStatement _)

theorem Stmt.renderAll_haltsAt : (stmts : List Stmt) →
    HaltsAt (Stmt.stopsAll stmts) (Stmt.renderAll target stmts)
  | [] => by
      rw [Stmt.renderAll]
      exact fun _ _ _ => .nil
  | first :: rest => by
      rw [Stmt.renderAll, Stmt.stopsAll]
      exact (Stmt.render_haltsAt first).bind fun _ => Stmt.renderAll_haltsAt rest

theorem Stmt.renderUndocumented_haltsAt : (body : List Stmt) →
    HaltsAt (Stmt.stopsUndocumented body) (Stmt.renderUndocumented target body)
  | [] => by
      rw [Stmt.renderUndocumented]
      exact fun _ _ _ => .nil
  | first :: rest => by
      rw [Stmt.renderUndocumented, Stmt.stopsUndocumented]
      split
      · exact Stmt.renderAll_haltsAt rest
      · exact (Stmt.render_haltsAt first).bind fun _ => Stmt.renderAll_haltsAt rest

theorem Stmt.renderOrelse_haltsAt : (orelse : List Stmt) →
    HaltsAt (Stmt.stopsOrelse orelse) (Stmt.renderOrelse target orelse)
  | [] => by
      rw [Stmt.renderOrelse]
      exact fun _ _ _ => .nil
  | [.mk line kind] => by
      have honly := Stmt.render_haltsAt (.mk line kind)
      have hnone := Stmt.renderAll_haltsAt []
      cases kind with
      | branch test body orelse =>
          have hbody := (Stmt.renderAll_haltsAt body).block none
          have henters : ∀ text, Enters (Stmt.stopsAll body ++ Stmt.stopsOrelse orelse) (do
              Script.emit (target.beginElif text)
              Script.block none (Stmt.renderAll target body)
              Stmt.renderOrelse target orelse) := fun text =>
            .emit (Target.emits_beginElif _) (Target.writesFirst_beginElif _) fun _ =>
              hbody.bind fun _ => Stmt.renderOrelse_haltsAt orelse
          have htested := Enters.after (HaltsAt.text fun around => test.render target around false)
            henters
          rw [Stmt.renderOrelse, Stmt.stopsOrelse]
          exact htested.halts.prepare (.stmt (.mk line (.branch test body orelse)))
            (.inr htested.writes)
      | _ =>
          rw [Stmt.renderOrelse, Stmt.stopsOrelse]
          · exact renderOtherwise_haltsAt target _ (honly.bind fun _ => hnone)
          · simp
          · simp
  | first :: second :: rest => by
      rw [Stmt.renderOrelse, Stmt.stopsOrelse]
      · exact renderOtherwise_haltsAt target _
          ((Stmt.render_haltsAt first).bind fun _ => Stmt.renderAll_haltsAt (second :: rest))
      · simp
      · simp

theorem MatchCase.render_haltsAt (node : RejectedNode) : (arm : MatchCase) →
    HaltsAt arm.stops (arm.render target node)
  | .mk line pattern body => by
      have hbody : HaltsAt (Stmt.stopsAll body) (Script.indented none (do
          Script.inScope (Stmt.renderAll target body)
          Script.emit? target node target.endCase?)) := by
        have hscoped : HaltsAt (Stmt.stopsAll body) (Script.inScope (Stmt.renderAll target body)) :=
          fun _ a ha => Stmt.renderAll_haltsAt body _ a ha
        have hended : HaltsAt [] (Script.emit? target node target.endCase?) :=
          .emit? node Target.emits_endCase
        exact fun _ a ha => (hscoped.last (fun _ => hended) _ a ha).deeper
      have hbegin : ∀ text, Enters (Stmt.stopsAll body) (do
          Script.emit? target (.matchCase (.mk line pattern body)) (target.beginCase? text)
          Script.indented none do
            Script.inScope (Stmt.renderAll target body)
            Script.emit? target node target.endCase?) := fun text =>
        .emit? _ Target.emits_beginCase Target.writesFirst_beginCase fun _ => hbody
      have henters := Enters.after (renderPattern_haltsAt target pattern) hbegin
      rw [MatchCase.render, MatchCase.stops]
      exact henters.halts.prepare (.arm (.mk line pattern body)) (.inr henters.writes)

theorem MatchCase.renderAll_haltsAt (node : RejectedNode) : (arms : List MatchCase) →
    HaltsAt (MatchCase.stopsAll arms) (MatchCase.renderAll target node arms)
  | [] => by
      rw [MatchCase.renderAll]
      exact fun _ _ _ => .nil
  | arm :: rest => by
      rw [MatchCase.renderAll, MatchCase.stopsAll]
      exact (MatchCase.render_haltsAt node arm).bind fun _ => MatchCase.renderAll_haltsAt node rest

end

/-- The script of a program stops where the program says. -/
theorem Program.script_halts (program : Program) {around : Surroundings}
    (h : (program.script target around).result = .ok ()) :
    Halts program.stops (program.script target around).steps :=
  Stmt.renderAll_haltsAt target program.body around.pushScope () h

end Tree

/-! ### Turns -/

/-- A stop with the steps of a script from there to the next. -/
structure Turn where
  stop : Stop
  own : List Step

namespace Turn

def steps (turn : Turn) : List Step := .prepare turn.stop.word :: turn.own

/-- What a turn of a script is: it prepares for one line only, and it writes unless its stop is
simple. -/
structure Whole (turn : Turn) : Prop where
  prepared : ∀ step ∈ turn.own, step.stays = true
  writes : turn.stop.isSimple = true ∨ writesFirst turn.own = true

end Turn

/-- Cuts a script that begins with a stop into turns. -/
def turns : List Stop → List Step → List Turn
  | [], _ => []
  | stop :: rest, steps =>
    ⟨stop, steps.tail.takeWhile Step.stays⟩ ::
      turns rest (steps.tail.dropWhile Step.stays)

theorem Layout.writesFirst_takeWhile (steps : List Step) :
    writesFirst (steps.takeWhile Step.stays) = writesFirst steps := by
  induction steps with
  | nil => rfl
  | cons step rest ih =>
      cases step with
      | prepare line => rfl
      | code text comments offset => rfl
      | _ => exact ih

/-- What comes before the first stop and the turns make up the script. -/
theorem Halts.turns {stops : List Stop} {steps : List Step} (h : Halts stops steps) :
    let cut := turns stops (steps.dropWhile Step.stays)
    steps = steps.takeWhile Step.stays ++ cut.flatMap Turn.steps ∧
      cut.map Turn.stop = stops ∧ ∀ turn ∈ cut, turn.Whole := by
  induction h with
  | nil => exact ⟨rfl, rfl, by simp [Snippet.turns]⟩
  | @step stops step steps hstep _ ih =>
      obtain ⟨hsteps, hstops, hwhole⟩ := ih
      rw [List.dropWhile_cons_of_pos hstep, List.takeWhile_cons_of_pos hstep]
      exact ⟨congrArg (step :: ·) hsteps, hstops, hwhole⟩
  | @stop stops steps stop hwrites _ ih =>
      obtain ⟨hsteps, hstops, hwhole⟩ := ih
      have hleaves : ¬(Step.prepare stop.word).stays = true := Bool.false_ne_true
      rw [List.dropWhile_cons_of_neg hleaves, List.takeWhile_cons_of_neg hleaves]
      refine ⟨congrArg (.prepare stop.word :: ·) hsteps, congrArg (stop :: ·) hstops, ?_⟩
      refine List.forall_mem_cons.mpr ⟨⟨List.all_eq_true.mp List.all_takeWhile, ?_⟩, hwhole⟩
      rwa [Layout.writesFirst_takeWhile]

namespace Program

def turns (target : Target) (program : Program) : List Turn :=
  Snippet.turns program.stops (program.script target .outermost).steps

theorem script_begins (target : Target) (program : Program) :
    (program.script target .outermost).steps = [] ∨
      ∃ line rest, (program.script target .outermost).steps = .prepare line :: rest := by
  have hsteps : (program.script target .outermost).steps =
      (Stmt.renderAll target program.body Surroundings.outermost.pushScope).steps := rfl
  rw [hsteps]
  cases program.body with
  | nil =>
      rw [Stmt.renderAll]
      exact .inl rfl
  | cons first rest =>
      obtain ⟨line, kind⟩ := first
      rw [Stmt.renderAll, Stmt.render, bind_assoc, bind_apply]
      exact .inr ⟨line, _, rfl⟩

/-- A script that is not rejected is the turns of its stops, one after another. -/
theorem turns_spec {target : Target} {program : Program}
    (h : (program.script target .outermost).result = .ok ()) :
    (program.script target .outermost).steps = (program.turns target).flatMap Turn.steps ∧
      (program.turns target).map Turn.stop = program.stops ∧
      ∀ turn ∈ program.turns target, turn.Whole := by
  have hturns := (program.script_halts target h).turns
  rw [turns]
  rcases program.script_begins target with heq | ⟨line, rest, heq⟩
  · rw [heq] at hturns ⊢
    exact hturns
  · rw [heq] at hturns ⊢
    exact hturns

end Program

end Snippet
