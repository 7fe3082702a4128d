import Snippet.Proofs.Inline.Segments
import Snippet.Proofs.Outline.Quiet

/-!
# Lines of pseudocode

Every line of pseudocode is written by one statement, out of the texts of its expressions. Most of them
go between dollar signs. The statement leaves a text bare in two places: an expression that stands as a
statement and has a blank, and a target with a blank together with what is assigned to it. There is a
third kind of line, in which a sentence with arguments stands inside of another text, and brings its
dollar signs along. Every other line is inline mathematics.
-/

namespace Snippet

open Layout
open Render

/-! ### The statements of a program -/

mutual

/-- A statement and all statements inside of it. -/
def Stmt.statements : Stmt → List StmtKind
  | .mk _ kind => kind :: kind.inner

def StmtKind.inner : StmtKind → List StmtKind
  | .classDef _ _ body => Stmt.statementsAll body
  | .functionDef _ body => Stmt.statementsAll body
  | .branch _ body orelse => Stmt.statementsAll body ++ Stmt.statementsAll orelse
  | .forLoop _ _ body _ => Stmt.statementsAll body
  | .whileLoop _ body => Stmt.statementsAll body
  | .switch _ cases => MatchCase.statementsAll cases
  | _ => []

def Stmt.statementsAll : List Stmt → List StmtKind
  | [] => []
  | stmt :: rest => stmt.statements ++ Stmt.statementsAll rest

def MatchCase.statementsAll : List MatchCase → List StmtKind
  | [] => []
  | .mk _ _ body :: rest => Stmt.statementsAll body ++ MatchCase.statementsAll rest

end

def Program.statements (program : Program) : List StmtKind := Stmt.statementsAll program.body

/-- The nodes that stand inside of other text where an expression stands bare, which a call does not
do itself. -/
def Expr.embedded : Expr → List RejectedNode
  | .call func args => func.visited ++ Expr.visitedAll args
  | expr => expr.visited

/-- The expressions that a statement writes itself. -/
def StmtKind.written : StmtKind → List Expr
  | .functionDef header _ => header.params.filterMap (·.hint) ++ header.defaults
  | .assign targets value => value :: targets
  | .annAssign declared hint value => hint :: declared :: value.toList
  | .augAssign assigned _ value => [assigned, value]
  | .branch test _ _ | .whileLoop test _ => [test]
  | .forLoop item iter _ _ => [item, iter]
  | .returning value => value.toList
  | .expr value => [value]
  | _ => []

/-! ### The lines of a statement -/

/-- A sentence with arguments stands inside of another text in a line: inside of the expression that it
is in, or with that expression between dollar signs. -/
inductive StmtKind.Nests (subject : Option String) (kind : StmtKind) (code : String) : Prop where
  | inside {expr : Expr} {node : RejectedNode} {around : Surroundings} {asType : Bool} {text : String}
      (hexpr : expr ∈ kind.written) (hnode : node ∈ expr.embedded) (hnarrates : node.Narrates subject)
      (hrender : expr.render (.pseudocode subject) around asType = .ok text)
      (hpart : text.toList <:+: code.toList)
  | between {expr : Expr} {node : RejectedNode} {around : Surroundings} {asType : Bool}
      {text inner : String} (hexpr : expr ∈ kind.written) (hnode : node ∈ expr.visited)
      (hnarrates : node.Narrates subject)
      (hrender : expr.render (.pseudocode subject) around asType = .ok text)
      (hinner : text.toList <:+: inner.toList)
      (hpart : (Pseudocode.math inner).toList <:+: code.toList)

/-- A command stands before the first segment. -/
def Exposed (text : String) : Prop := '\\' ∈ text.toList.takeWhile (· != '$')

/-- A line that is left bare for a blank, with a command in what is bare. -/
inductive StmtKind.LeavesBare (subject : Option String) : StmtKind → String → Prop where
  | statement {value : Expr} {around : Surroundings} {text : String}
      (hrender : value.render (.pseudocode subject) around false = .ok text)
      (hblank : Pseudocode.isSentence text = true) (hexposed : Exposed text) :
      LeavesBare subject (.expr value) text
  | setting {targets : List Expr} {value assigned : Expr} {around : Surroundings}
      {text target : String} (hmem : assigned ∈ targets)
      (htarget : assigned.render (.pseudocode subject) around false = .ok target)
      (hvalue : value.render (.pseudocode subject) around false = .ok text)
      (hblank : Pseudocode.isSentence target = true) (hexposed : Exposed target ∨ Exposed text) :
      LeavesBare subject (.assign targets value) (Pseudocode.assignment text target)

/-- A text in a line is inline mathematics, unless something in it is exposed or it nests. -/
def StmtKind.Shows (subject : Option String) (kind : StmtKind) (exposed : Prop) (code : String) :
    Prop :=
  Free '\n' code ∧ (InlineMath code ∨ (Paired code ∧ exposed) ∨ kind.Nests subject code)

/-- A whole line has exposed what the statement leaves bare. -/
def StmtKind.Explains (subject : Option String) (kind : StmtKind) (code : String) : Prop :=
  kind.Shows subject (kind.LeavesBare subject code) code

/-- Every line of some steps has a statement that explains it. -/
def Explained (subject : Option String) (kinds : List StmtKind) (steps : List Step) : Prop :=
  ∀ code ∈ steps.filterMap Step.text?, ∃ kind ∈ kinds, kind.Explains subject code

theorem splits_newline : Splits '\n' := .inr rfl

theorem splits_dollar : Splits '$' := .inl rfl

theorem Paired.append {first second : String} (h₁ : Paired first) (h₂ : Paired second) :
    Paired (first ++ second) := by
  rw [Paired, String.toList_append]
  exact Segments.append h₁ h₂

/-! ### Texts that stand bare -/

/-- A text without dollar signs, or a sentence of such a text with its arguments. -/
inductive Bare : String → Prop where
  | plain {text : String} (h : Free '$' text) : Bare text
  | narrated {callee args : String} (hcallee : Free '$' callee) (hargs : Free '$' args) :
      Bare (callee ++ " " ++ Pseudocode.math args)

theorem paired_of_free {text : String} (h : Free '$' text) : Paired text :=
  Segments.of_forall fun _ hc heq => h (heq ▸ hc)

theorem exposed_of_mem {text : String} (h : Free '$' text) (hmem : '\\' ∈ text.toList)
    (rest : String) : Exposed (text ++ rest) := by
  have hall : ∀ c ∈ text.toList, (c != '$') = true := by
    intro c hc
    rw [bne_iff_ne]
    exact fun heq => h (heq ▸ hc)
  rw [Exposed, String.toList_append, List.takeWhile_append_of_pos hall]
  exact List.mem_append_left _ hmem

theorem inlineMath_or_mem {text : String} (h : Free '$' text) :
    InlineMath text ∨ '\\' ∈ text.toList := by
  by_cases hmem : '\\' ∈ text.toList
  · exact .inr hmem
  · exact .inl (Segments.of_forall fun c hc => ⟨fun heq => h (heq ▸ hc), fun heq => hmem (heq ▸ hc)⟩)

namespace Bare

variable {text : String}

theorem paired (h : Bare text) : Paired text := by
  cases h with
  | plain h => exact paired_of_free h
  | narrated hcallee hargs =>
      have hblank : Paired " " := (inlineMath_of_isProse rfl).paired
      exact ((paired_of_free hcallee).append hblank).append (inlineMath_math hargs).paired

theorem inlineMath_or_exposed (h : Bare text) : InlineMath text ∨ Exposed text := by
  cases h with
  | plain h =>
      rcases inlineMath_or_mem h with hinline | hmem
      · exact .inl hinline
      · have hexposed := exposed_of_mem h hmem ""
        rw [String.append_empty] at hexposed
        exact .inr hexposed
  | narrated hcallee hargs =>
      rcases inlineMath_or_mem hcallee with hinline | hmem
      · exact .inl ((hinline.append (inlineMath_of_isProse rfl)).append (inlineMath_math hargs))
      · rw [String.append_assoc]
        exact .inr (exposed_of_mem hcallee hmem _)

/-- Only a sentence has dollar signs. -/
theorem isSentence (h : Bare text) (hmem : '$' ∈ text.toList) : Pseudocode.isSentence text = true := by
  cases h with
  | plain h => exact absurd hmem h
  | narrated hcallee hargs => simp [Pseudocode.isSentence]

end Bare

/-- A sentence with arguments is no call of another form. -/
theorem call?_eq_plainCall {func : String} (h : Pseudocode.isSentence func = true)
    (args : List String) : Pseudocode.call? func args = some (Pseudocode.plainCall func args) := by
  rw [Pseudocode.call?.eq_def]
  split
  case h_7 => rfl
  all_goals exact absurd h (by decide)

section Lines

variable {subject : Option String} {kind : StmtKind} {kinds more : List StmtKind}
  {around : Surroundings} {asType : Bool} {expr : Expr} {code text : String}

/-- The text of an expression that a statement writes. -/
structure Spelled (subject : Option String) (kind : StmtKind) (around : Surroundings) (asType : Bool)
    (expr : Expr) (text : String) : Prop where
  written : expr ∈ kind.written
  tame : ∀ leaf ∈ expr.leaves, leaf.isTame = true
  rendered : expr.render (.pseudocode subject) around asType = .ok text

theorem Spelled.newline (h : Spelled subject kind around asType expr text) : Free '\n' text :=
  Expr.render_free splits_newline expr h.tame (fun heq => absurd heq (by decide)) text h.rendered

/-- The one expression that may have dollar signs where it stands bare is a call. -/
theorem Spelled.bare (h : Spelled subject kind around asType expr text) :
    Bare text ∨ ∃ node ∈ expr.embedded, node.Narrates subject := by
  by_cases hnarrates : ∃ node ∈ expr.embedded, node.Narrates subject
  · exact .inr hnarrates
  have hquiet : Quiet subject '$' expr.embedded := fun _ node hnode hself =>
    hnarrates ⟨node, hnode, hself⟩
  refine .inl ?_
  have htame := h.tame
  have hrender := h.rendered
  cases expr with
  | call func args =>
      obtain ⟨callee, texts, hcallee, htexts, hcall⟩ := Expr.exists_parts_of_call hrender
      obtain ⟨hfunc, hargs⟩ := List.forall_mem_append.mp htame
      have hcalleeFree : Free '$' ((Target.pseudocode subject).atom func callee) :=
        splits_dollar.atom func (Expr.render_free splits_dollar func hfunc
          (hquiet.mono (by simp [Expr.embedded])) callee hcallee)
      have htextsFree := Expr.renderAll_free splits_dollar args hargs
        (hquiet.mono (by simp [Expr.embedded])) texts htexts
      by_cases hplain :
          Pseudocode.isSentence ((Target.pseudocode subject).atom func callee) = true → texts = []
      · exact .plain (splits_dollar.call hcalleeFree htextsFree (fun _ => hplain) hcall)
      · obtain ⟨hsentence, hsome⟩ := Classical.not_imp.mp hplain
        have heq : text =
            (Target.pseudocode subject).atom func callee ++ " " ++
              Pseudocode.math (commaList texts) := by
          have hsame := (call?_eq_plainCall hsentence texts).symm.trans hcall
          rw [← Option.some.inj hsame, Pseudocode.plainCall, if_pos hsentence, if_neg]
          simpa using hsome
        rw [heq]
        exact .narrated hcalleeFree (splits_dollar.commaList htextsFree)
  | _ => exact .plain (Expr.render_free splits_dollar _ htame hquiet text hrender)

/-! ### Texts that stand between dollar signs -/

/-- A text of a statement that goes between dollar signs. -/
def StmtKind.Fills (subject : Option String) (kind : StmtKind) (inner : String) : Prop :=
  Free '\n' inner ∧
    (Free '$' inner ∨ ∃ expr ∈ kind.written, (∃ node ∈ expr.visited, node.Narrates subject) ∧
      ∃ around asType text, expr.render (.pseudocode subject) around asType = .ok text ∧
        text.toList <:+: inner.toList)

theorem Spelled.fills (h : Spelled subject kind around asType expr text) :
    kind.Fills subject text := by
  refine ⟨h.newline, ?_⟩
  by_cases hnarrates : ∃ node ∈ expr.visited, node.Narrates subject
  · exact .inr ⟨expr, h.written, hnarrates, around, asType, text, h.rendered, List.infix_refl _⟩
  · have hquiet : Quiet subject '$' expr.visited := fun _ node hnode hself =>
      hnarrates ⟨node, hnode, hself⟩
    exact .inl (Expr.render_free splits_dollar expr h.tame hquiet text h.rendered)

namespace StmtKind

theorem fills_of_free {inner : String} (h : ∀ d, Splits d → Free d inner) :
    kind.Fills subject inner := ⟨h '\n' splits_newline, .inl (h '$' splits_dollar)⟩

theorem fills_of_all {inner : String}
    (h : inner.toList.all (fun c => c != '$' && c != '\n') = true) : kind.Fills subject inner :=
  fills_of_free fun _ hd => hd.free h

theorem Fills.append {first second : String} (h₁ : kind.Fills subject first)
    (h₂ : kind.Fills subject second) : kind.Fills subject (first ++ second) := by
  refine ⟨free_append.mpr ⟨h₁.1, h₂.1⟩, ?_⟩
  rw [String.toList_append]
  rcases h₁.2 with hfirst | ⟨expr, hexpr, hnarrates, around, asType, text, hrender, hpart⟩
  · rcases h₂.2 with hsecond | ⟨expr, hexpr, hnarrates, around, asType, text, hrender, hpart⟩
    · exact .inl (free_append.mpr ⟨hfirst, hsecond⟩)
    · exact .inr ⟨expr, hexpr, hnarrates, around, asType, text, hrender,
        hpart.trans (List.suffix_append _ _).isInfix⟩
  · exact .inr ⟨expr, hexpr, hnarrates, around, asType, text, hrender,
      hpart.trans (List.prefix_append _ _).isInfix⟩

/-! ### Lines with segments -/

theorem Nests.mono {line : String} (h : kind.Nests subject code)
    (hline : code.toList <:+: line.toList) : kind.Nests subject line := by
  cases h with
  | inside hexpr hnode hnarrates hrender hpart =>
      exact .inside hexpr hnode hnarrates hrender (hpart.trans hline)
  | between hexpr hnode hnarrates hrender hinner hpart =>
      exact .between hexpr hnode hnarrates hrender hinner (hpart.trans hline)

namespace Shows

variable {exposed other : Prop}

theorem of_isProse (h : code.toList.all isProse = true) : kind.Shows subject exposed code :=
  ⟨splits_newline.free_of_isProse h, .inl (inlineMath_of_isProse h)⟩

theorem mono (h : kind.Shows subject exposed code) (himp : exposed → other) :
    kind.Shows subject other code := ⟨h.1, h.2.imp_right (.imp_left (.imp_right himp))⟩

theorem append {first second : String} (h₁ : kind.Shows subject exposed first)
    (h₂ : kind.Shows subject exposed second) : kind.Shows subject exposed (first ++ second) := by
  refine ⟨free_append.mpr ⟨h₁.1, h₂.1⟩, ?_⟩
  have hleft : first.toList <:+: (first ++ second).toList := by
    rw [String.toList_append]
    exact (List.prefix_append _ _).isInfix
  have hright : second.toList <:+: (first ++ second).toList := by
    rw [String.toList_append]
    exact (List.suffix_append _ _).isInfix
  rcases h₁.2 with hfirst | ⟨hfirst, hexposed⟩ | hnests
  · rcases h₂.2 with hsecond | ⟨hsecond, hexposed⟩ | hnests
    · exact .inl (hfirst.append hsecond)
    · exact .inr (.inl ⟨hfirst.paired.append hsecond, hexposed⟩)
    · exact .inr (.inr (hnests.mono hright))
  · rcases h₂.2 with hsecond | ⟨hsecond, -⟩ | hnests
    · exact .inr (.inl ⟨hfirst.append hsecond.paired, hexposed⟩)
    · exact .inr (.inl ⟨hfirst.append hsecond, hexposed⟩)
    · exact .inr (.inr (hnests.mono hright))
  · exact .inr (.inr (hnests.mono hleft))

end Shows

theorem Fills.math {exposed : Prop} {inner : String} (h : kind.Fills subject inner) :
    kind.Shows subject exposed (Pseudocode.math inner) := by
  refine ⟨?_, ?_⟩
  · simpa [Pseudocode.math, Free] using h.1
  · rcases h.2 with hfree | ⟨expr, hexpr, ⟨node, hnode, hnarrates⟩, _, _, text, hrender, hpart⟩
    · exact .inl (inlineMath_math hfree)
    · exact .inr (.inr (.between hexpr hnode hnarrates hrender hpart (List.infix_refl _)))

end StmtKind

/-- Where an expression stands bare it may expose its commands. -/
theorem Spelled.shows (h : Spelled subject kind around asType expr text) :
    kind.Shows subject (Exposed text) text := by
  refine ⟨h.newline, ?_⟩
  rcases h.bare with hbare | ⟨node, hnode, hnarrates⟩
  · rcases hbare.inlineMath_or_exposed with hinline | hexposed
    · exact .inl hinline
    · exact .inr (.inl ⟨hbare.paired, hexposed⟩)
  · exact .inr (.inr (.inside h.written hnode hnarrates h.rendered (List.infix_refl _)))

end Lines

end Snippet
