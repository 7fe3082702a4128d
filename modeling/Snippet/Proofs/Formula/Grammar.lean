import Snippet.Proofs.Formula.Reads

/-!
# Grammars of expressions and the texts that show them

A grammar reads a whole text as an expression. `Shows` says of a text that it is read so at some
levels and wherever it stands, and the lemmas on it are the ways in which such texts are put together.
-/

namespace Snippet.Formula

/-- The levels of a grammar and the signs that its texts are cut into, which do not clash. -/
structure Grammar where
  levels : List Level
  signs : List String
  distinct : Distinct levels
  closers : ∀ sign ∈ [")", "]", ",", ":"], sign ∉ followers levels
  unopened : ")" ∉ starters levels
  punctuates : ∀ sign ∈ [".", "(", ")", "[", "]", ","], Punctuates signs sign
  separates : ∀ sign ∈ ":" :: levels.flatMap Level.follow, Separates signs sign
  groups : Precedes signs "("

def Grammar.read? (grammar : Grammar) (text : String) : Option Expr := do
  let tokens ← tokens? grammar.signs text.toList
  match ← read grammar.levels grammar.levels tokens with
  | ⟨expr, [], _⟩ => some expr
  | _ => none

/-- A text that is read as an expression at the levels from one on, wherever it stands. -/
def Shows (grammar : Grammar) (level : Nat) (text : String) (expr : Expr) : Prop :=
  ∃ tokens, Spells grammar.signs text tokens ∧
    Reads grammar.levels (grammar.levels.drop level) tokens expr

theorem Grammar.splits {grammar : Grammar} {count : Nat} {level : Level} {tighter : List Level}
    {sign : String} (hdrop : grammar.levels.drop count = level :: tighter)
    (hsign : sign ∈ level.follow) : Splits grammar.signs (" " ++ sign ++ " ") sign := by
  have hlevel : level ∈ grammar.levels := by
    refine List.mem_of_mem_drop (i := count) ?_
    rw [hdrop]
    exact List.mem_cons_self
  refine .of_separates (grammar.separates sign (List.mem_cons_of_mem _ ?_))
  exact List.mem_flatMap.mpr ⟨level, hlevel, hsign⟩

theorem Grammar.not_mem_followers {grammar : Grammar} {count : Nat} {level : Level}
    {tighter : List Level} {sign : String} (hdrop : grammar.levels.drop count = level :: tighter)
    (hsign : sign ∈ level.follow) : sign ∉ followers tighter := by
  have hdistinct := grammar.distinct.drop count
  rw [hdrop] at hdistinct
  exact hdistinct.1 sign hsign

theorem exists_tokens_of_forall₂ {grammar : Grammar} {level : Nat} {texts : List String}
    {exprs : List Expr} (h : List.Forall₂ (Shows grammar level) texts exprs) :
    ∃ tokens, List.Forall₂ (Spells grammar.signs) texts tokens ∧
      List.Forall₂ (Reads grammar.levels (grammar.levels.drop level)) tokens exprs := by
  induction h with
  | nil => exact ⟨[], .nil, .nil⟩
  | cons hfirst _ ih =>
      obtain ⟨first, hspells, hreads⟩ := hfirst
      obtain ⟨rest, hrestSpells, hrestReads⟩ := ih
      exact ⟨first :: rest, .cons hspells hrestSpells, .cons hreads hrestReads⟩

namespace Shows

variable {grammar : Grammar} {level : Nat} {text first second : String} {expr other : Expr}

theorem read?_eq (h : Shows grammar 0 text expr) : grammar.read? text = some expr := by
  obtain ⟨tokens, hspells, hreads⟩ := h
  have hwhole : plain (read grammar.levels grammar.levels tokens) = some (expr, []) := by
    have hread := hreads.whole (clear_nil _)
    rwa [List.append_nil] at hread
  obtain ⟨fits, hread⟩ := exists_of_plain_eq_some hwhole
  simp [Grammar.read?, hspells.tokens?_eq, hread]

theorem climb (h : Shows grammar (level + 1) text expr) (hlevel : level < grammar.levels.length) :
    Shows grammar level text expr := by
  obtain ⟨tokens, hspells, hreads⟩ := h
  have hdistinct := grammar.distinct.drop level
  rw [List.drop_eq_getElem_cons hlevel] at hdistinct
  refine ⟨tokens, hspells, ?_⟩
  rw [List.drop_eq_getElem_cons hlevel]
  exact hreads.climb hdistinct

theorem antitone {loose tight : Nat} (h : Shows grammar tight text expr) (hle : loose ≤ tight)
    (hlength : tight ≤ grammar.levels.length) : Shows grammar loose text expr := by
  induction tight with
  | zero =>
      obtain rfl := Nat.le_zero.mp hle
      exact h
  | succ tight ih =>
      by_cases heq : loose = tight + 1
      · exact heq ▸ h
      · exact ih (h.climb hlength) (by omega) (Nat.le_of_succ_le hlength)

/-! ### Texts from their parts -/

theorem of_reads {levels : List Level} {tokens : List Token}
    (hdrop : grammar.levels.drop level = levels) (hspells : Spells grammar.signs text tokens) (hreads : Reads grammar.levels levels tokens expr) :
    Shows grammar level text expr :=
  ⟨tokens, hspells, hdrop ▸ hreads⟩

section Atoms

variable (hatom : grammar.levels.drop level = [])

include hatom

theorem word {ident : String} (h : IsWord ident) : Shows grammar level ident (.name ident) :=
  of_reads hatom (.word h) (.word ident)

theorem group (h : Shows grammar 0 text expr) : Shows grammar level ("(" ++ text ++ ")") expr := by
  obtain ⟨tokens, hspells, hreads⟩ := h
  have hclose : Splits grammar.signs ")" ")" := .of_punctuates (grammar.punctuates _ (by simp))
  refine of_reads hatom ((hspells.precede grammar.groups).close hclose) ?_
  exact Reads.group hreads (grammar.closers _ (by simp))

theorem member {attr : String} (h : Shows grammar level text expr) (hattr : IsWord attr) :
    Shows grammar level (text ++ "." ++ attr) (.member expr attr) := by
  obtain ⟨tokens, hspells, hreads⟩ := h
  rw [hatom] at hreads
  have hdot : Splits grammar.signs "." "." := .of_punctuates (grammar.punctuates _ (by simp))
  exact of_reads hatom (hspells.append hdot (.word hattr)) (hreads.member attr)

theorem subscript {index : String} {indexExpr : Expr} (h : Shows grammar level text expr)
    (hindex : Shows grammar 0 index indexExpr) :
    Shows grammar level (text ++ "[" ++ index ++ "]") (.subscript expr indexExpr) := by
  obtain ⟨tokens, hspells, hreads⟩ := h
  obtain ⟨inner, hinnerSpells, hinnerReads⟩ := hindex
  rw [hatom] at hreads
  have hopen : Splits grammar.signs "[" "[" := .of_punctuates (grammar.punctuates _ (by simp))
  have hclose : Splits grammar.signs "]" "]" := .of_punctuates (grammar.punctuates _ (by simp))
  refine of_reads hatom ((hspells.append hopen hinnerSpells).close hclose) ?_
  rw [List.append_assoc, List.cons_append]
  exact hreads.subscript hinnerReads (grammar.closers _ (by simp))

theorem call {args : List String} {argExprs : List Expr} (h : Shows grammar level text expr)
    (hargs : List.Forall₂ (Shows grammar 0) args argExprs) :
    Shows grammar level (text ++ "(" ++ ", ".intercalate args ++ ")") (.call expr argExprs) := by
  obtain ⟨tokens, hspells, hreads⟩ := h
  obtain ⟨inner, hinnerSpells, hinnerReads⟩ := exists_tokens_of_forall₂ hargs
  rw [hatom] at hreads
  have hopen : Splits grammar.signs "(" "(" := .of_punctuates (grammar.punctuates _ (by simp))
  have hclose : Splits grammar.signs ")" ")" := .of_punctuates (grammar.punctuates _ (by simp))
  have hcomma : Splits grammar.signs "," "," := .of_punctuates (grammar.punctuates _ (by simp))
  have hcall : Spells grammar.signs (text ++ "(" ++ ", ".intercalate args ++ ")")
      (tokens ++ .sign "(" :: (separated "," inner ++ [.sign ")"])) := by
    cases hinnerSpells with
    | nil => simpa [separated] using (hspells.close hopen).close hclose
    | cons hfirst hothers =>
        have hargs :=
          Spells.intercalate hcomma.append_blank (.cons hfirst hothers) (List.cons_ne_nil _ _)
        simpa using (hspells.append hopen hargs).close hclose
  refine of_reads hatom hcall ?_
  exact hreads.call hinnerReads (grammar.closers _ (by simp)) (grammar.closers _ (by simp))
    grammar.unopened

end Atoms

section Operators

theorem left {ops : List (String × (Expr → Expr → Expr))} {sign : String}
    {join : Expr → Expr → Expr}
    (hdrop : grammar.levels.drop level = .left ops :: grammar.levels.drop (level + 1))
    (hjoin : ops.lookup sign = some join) (h₁ : Shows grammar level first expr)
    (h₂ : Shows grammar (level + 1) second other) :
    Shows grammar level (first ++ (" " ++ sign ++ " ") ++ second) (join expr other) := by
  obtain ⟨tokens, hspells, hreads⟩ := h₁
  obtain ⟨others, hotherSpells, hotherReads⟩ := h₂
  have hdistinct := grammar.distinct.drop level
  rw [hdrop] at hreads hdistinct
  have hsplits := grammar.splits hdrop (mem_of_lookup hjoin)
  exact of_reads hdrop (hspells.append hsplits hotherSpells)
    (Reads.left hjoin hdistinct hreads hotherReads)

theorem before_of_head {ops : List (String × UnaryOp)} {sign : String} {op : UnaryOp}
    {tighter : List Level} (hdrop : grammar.levels.drop level = .before ops :: tighter)
    (hop : ops.lookup sign = some op) (hmem : sign ∈ grammar.signs)
    (hstart : startsSign sign = true) (hopens : sign.toList.head?.any opensOperand = true)
    (hhead : ∀ c ∈ text.toList.head?, c ∉ extensions grammar.signs sign)
    (h : Shows grammar level text expr) : Shows grammar level (sign ++ text) (.unary op expr) := by
  obtain ⟨tokens, hspells, hreads⟩ := h
  rw [hdrop] at hreads
  exact of_reads hdrop (hspells.precede_of_head hmem hstart hopens hhead) (Reads.before hop hreads)

theorem before {ops : List (String × UnaryOp)} {sign : String} {op : UnaryOp}
    {tighter : List Level} (hdrop : grammar.levels.drop level = .before ops :: tighter)
    (hop : ops.lookup sign = some op) (hsign : Precedes grammar.signs sign)
    (h : Shows grammar level text expr) : Shows grammar level (sign ++ text) (.unary op expr) := by
  obtain ⟨tokens, hspells, hreads⟩ := h
  rw [hdrop] at hreads
  exact of_reads hdrop (hspells.precede hsign) (Reads.before hop hreads)

/-- The exponent of a power is read one level looser, with the signs before it. -/
theorem power {signs : List (String × UnaryOp)} {sign : String}
    (hloose : grammar.levels.drop level = .before signs :: grammar.levels.drop (level + 1))
    (hdrop : grammar.levels.drop (level + 1) =
      .power signs sign :: grammar.levels.drop (level + 2))
    (h₁ : Shows grammar (level + 2) first expr) (h₂ : Shows grammar level second other) :
    Shows grammar (level + 1) (first ++ (" " ++ sign ++ " ") ++ second)
      (.binary expr .pow other) := by
  obtain ⟨tokens, hspells, hreads⟩ := h₁
  obtain ⟨others, hotherSpells, hotherReads⟩ := h₂
  rw [hloose, hdrop] at hotherReads
  have hfollow : sign ∈ (Level.power signs sign).follow := List.mem_singleton_self sign
  exact of_reads hdrop (hspells.append (grammar.splits hdrop hfollow) hotherSpells)
    (Reads.power (grammar.not_mem_followers hdrop hfollow) hreads hotherReads)

theorem comparison {ops : List (String × CompareOp)} {sign : String} {op : CompareOp}
    (hdrop : grammar.levels.drop level = .chain ops :: grammar.levels.drop (level + 1))
    (hop : ops.lookup sign = some op) (h₁ : Shows grammar (level + 1) first expr)
    (h₂ : Shows grammar (level + 1) second other) :
    Shows grammar level (first ++ (" " ++ sign ++ " ") ++ second) (.comparison expr op other) := by
  obtain ⟨tokens, hspells, hreads⟩ := h₁
  obtain ⟨others, hotherSpells, hotherReads⟩ := h₂
  have hfollow : sign ∈ (Level.chain ops).follow := mem_of_lookup hop
  exact of_reads hdrop (hspells.append (grammar.splits hdrop hfollow) hotherSpells)
    (Reads.comparison hop (grammar.not_mem_followers hdrop hfollow) hreads hotherReads)

theorem run {sign : String} {op : BoolOp} {texts : List String} {exprs : List Expr}
    (hdrop : grammar.levels.drop level = .run sign op :: grammar.levels.drop (level + 1))
    (h : List.Forall₂ (Shows grammar (level + 1)) texts exprs) (hlength : 2 ≤ exprs.length) :
    Shows grammar level ((" " ++ sign ++ " ").intercalate texts) (.bool op exprs) := by
  obtain ⟨tokens, hspells, hreads⟩ := exists_tokens_of_forall₂ h
  have hfollow : sign ∈ (Level.run sign op).follow := List.mem_singleton_self sign
  have hne : texts ≠ [] := by
    rintro rfl
    cases h
    simp at hlength
  refine of_reads hdrop (Spells.intercalate (grammar.splits hdrop hfollow) hspells hne) ?_
  match hreads with
  | .nil => simp at hlength
  | .cons _ .nil => simp at hlength
  | .cons hfirst (.cons hsecond hothers) =>
      exact Reads.run (grammar.not_mem_followers hdrop hfollow) hfirst hsecond hothers

theorem conditional {third : String} {orelse : Expr}
    (hdrop : grammar.levels.drop level = .choice :: grammar.levels.drop (level + 1))
    (h₁ : Shows grammar (level + 1) first expr) (h₂ : Shows grammar (level + 1) second other)
    (h₃ : Shows grammar level third orelse) :
    Shows grammar level (first ++ " ? " ++ second ++ " : " ++ third)
      (.conditional expr other orelse) := by
  obtain ⟨tokens, hspells, hreads⟩ := h₁
  obtain ⟨body, hbodySpells, hbodyReads⟩ := h₂
  obtain ⟨last, hlastSpells, hlastReads⟩ := h₃
  rw [hdrop] at hlastReads
  have hfollow : "?" ∈ Level.choice.follow := List.mem_singleton_self _
  have hquestion : Splits grammar.signs " ? " "?" := grammar.splits hdrop hfollow
  have hcolons : Splits grammar.signs " : " ":" :=
    .of_separates (grammar.separates ":" List.mem_cons_self)
  have hcolon : ":" ∉ followers (grammar.levels.drop (level + 1)) :=
    fun hmem => grammar.closers ":" (by simp) (mem_followers_of_drop hmem)
  refine of_reads hdrop ((hspells.append hquestion hbodySpells).append hcolons hlastSpells) ?_
  exact Reads.conditional (grammar.not_mem_followers hdrop hfollow) hcolon hreads hbodyReads
    hlastReads

end Operators

end Shows

end Snippet.Formula
