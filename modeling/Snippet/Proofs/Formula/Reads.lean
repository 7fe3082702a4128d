import Mathlib.Data.List.Forall2
import Snippet.Proofs.Formula.Reader

/-!
# What tokens are read as

`Reads` says that tokens are read as an expression at a list of levels, whatever comes after them
that does not belong to the expression. A level that groups to the left may go on after the
expression, which is why `Reads` speaks of what the reader does next and not of where it stops.
-/

namespace Snippet.Formula

namespace Level

/-- The signs that go on after an operand of a level. -/
def follow : Level → List String
  | choice => ["?"]
  | run sign _ => [sign]
  | before _ => []
  | chain ops => ops.map Prod.fst
  | left ops => ops.map Prod.fst
  | power _ sign => [sign]

/-- The signs that can stand before an operand of a level. -/
def start : Level → List String
  | before ops => ops.map Prod.fst
  | _ => []

end Level

def followers : List Level → List String
  | [] => [".", "(", "["]
  | level :: tighter => level.follow ++ followers tighter

theorem mem_followers_of_drop {levels : List Level} {count : Nat} {sign : String}
    (h : sign ∈ followers (levels.drop count)) : sign ∈ followers levels := by
  induction count generalizing levels with
  | zero => exact h
  | succ count ih =>
      cases levels with
      | nil => exact h
      | cons level tighter => exact List.mem_append_right _ (ih h)

def starters : List Level → List String
  | [] => ["("]
  | level :: tighter => level.start ++ starters tighter

/-- No sign means two things at one place. -/
def Distinct : List Level → Prop
  | [] => True
  | level :: tighter =>
    (∀ sign ∈ level.follow, sign ∉ followers tighter) ∧
      (∀ sign ∈ level.start, sign ∉ starters tighter) ∧ Distinct tighter

instance decidableDistinct : (levels : List Level) → Decidable (Distinct levels)
  | [] => inferInstanceAs (Decidable True)
  | _ :: tighter =>
    have := decidableDistinct tighter
    inferInstanceAs (Decidable (_ ∧ _ ∧ Distinct tighter))

theorem Distinct.drop {levels : List Level} (h : Distinct levels) (count : Nat) :
    Distinct (levels.drop count) := by
  induction count generalizing levels with
  | zero => exact h
  | succ count ih =>
      cases levels with
      | nil => exact h
      | cons level tighter => exact ih h.2.2

def Clear (signs : List String) (tokens : List Token) : Prop :=
  ∀ sign, tokens.head? = some (.sign sign) → sign ∉ signs

theorem clear_nil (signs : List String) : Clear signs [] := by
  intro sign h
  cases h

theorem clear_cons {signs : List String} {sign : String} (h : sign ∉ signs) (rest : List Token) :
    Clear signs (.sign sign :: rest) := by
  intro found hfound
  obtain rfl : sign = found := by simpa using hfound
  exact h

theorem Clear.of_append {signs others : List String} {tokens : List Token}
    (h : Clear (signs ++ others) tokens) : Clear signs tokens ∧ Clear others tokens :=
  ⟨fun sign hsign hmem => h sign hsign (List.mem_append_left _ hmem),
    fun sign hsign hmem => h sign hsign (List.mem_append_right _ hmem)⟩

theorem clear_flatMap {signs : List String} {sign : String} {rest : List Token}
    (hsign : sign ∉ signs) (hrest : Clear signs rest) (others : List (List Token)) :
    Clear signs (others.flatMap (.sign sign :: ·) ++ rest) := by
  cases others with
  | nil => exact hrest
  | cons first others => exact clear_cons hsign _

section Tokens

variable {α : Type} {ops : List (String × α)} {sign : String} {a : α} {tokens rest : List Token}

theorem take?_cons (h : ops.lookup sign = some a) :
    take? ops (.sign sign :: rest) = some (a, ⟨rest, Nat.lt_succ_self _⟩) := by
  simp [take?, h]

theorem take?_of_clear (h : Clear (ops.map Prod.fst) tokens) : take? ops tokens = none := by
  match tokens with
  | [] => rfl
  | .word _ :: _ => rfl
  | .sign found :: rest =>
      have hnot : found ∉ ops.map Prod.fst := h found rfl
      have hlookup : ops.lookup found = none := by
        refine List.lookup_eq_none_iff.mpr fun op hop => ?_
        have hne : found ≠ op.1 := by
          rintro rfl
          exact hnot (List.mem_map_of_mem hop)
        simpa using hne
      simp [take?, hlookup]

theorem after?_cons : after? sign (.sign sign :: rest) = some ⟨rest, Nat.lt_succ_self _⟩ := by
  simp [after?]

theorem after?_of_clear (h : Clear [sign] tokens) : after? sign tokens = none := by
  match tokens with
  | [] => rfl
  | .word _ :: _ => rfl
  | .sign found :: rest =>
      have hne : found ≠ sign := by
        rintro rfl
        exact h found rfl List.mem_cons_self
      simp [after?, hne]

theorem mem_of_lookup (h : ops.lookup sign = some a) : sign ∈ ops.map Prod.fst := by
  by_contra hnot
  have hnone : take? ops [.sign sign] = none := take?_of_clear (clear_cons hnot [])
  rw [take?_cons h] at hnone
  cases hnone

end Tokens

/-! ### The loops of the reader -/

/-- What was taken and what is left, without the bound on it. -/
def plain {α : Type} {tokens : List Token} (taken : Option (Taken α tokens)) :
    Option (α × List Token) :=
  taken.map fun taken => (taken.value, taken.rest)

theorem exists_of_plain_eq_some {α : Type} {tokens rest : List Token} {a : α}
    {taken : Option (Taken α tokens)} (h : plain taken = some (a, rest)) :
    ∃ fits, taken = some ⟨a, rest, fits⟩ := by
  obtain ⟨found, rfl, hfound⟩ := Option.map_eq_some_iff.mp h
  obtain ⟨value, left, fits⟩ := found
  cases hfound
  exact ⟨fits, rfl⟩

section Loops

variable {all tighter : List Level} {rest : List Token}

theorem readRun_of_clear {sign : String} (h : Clear [sign] rest) :
    readRun all sign tighter rest = some ⟨[], rest, Nat.le_refl _⟩ := by
  rw [readRun, after?_of_clear h]

theorem readRun_cons {sign : String} {next : Expr} {tokens : List Token}
    (h : plain (read all tighter tokens) = some (next, rest)) :
    plain (readRun all sign tighter (.sign sign :: tokens)) =
      (plain (readRun all sign tighter rest)).map fun (more, last) => (next :: more, last) := by
  obtain ⟨fits, hread⟩ := exists_of_plain_eq_some h
  rw [readRun, after?_cons]
  simp only [hread, Option.bind_eq_bind, Option.bind_some]
  cases readRun all sign tighter rest <;> rfl

theorem readLinks_of_clear {ops : List (String × CompareOp)} (h : Clear (ops.map Prod.fst) rest) :
    readLinks all ops tighter rest = some ⟨[], rest, Nat.le_refl _⟩ := by
  rw [readLinks, take?_of_clear h]

theorem readLinks_cons {ops : List (String × CompareOp)} {sign : String} {op : CompareOp}
    {next : Expr} {tokens : List Token} (hop : ops.lookup sign = some op)
    (h : plain (read all tighter tokens) = some (next, rest)) :
    plain (readLinks all ops tighter (.sign sign :: tokens)) =
      (plain (readLinks all ops tighter rest)).map
        fun (more, last) => ((op, next) :: more, last) := by
  obtain ⟨fits, hread⟩ := exists_of_plain_eq_some h
  rw [readLinks, take?_cons hop]
  simp only [hread, Option.bind_eq_bind, Option.bind_some]
  cases readLinks all ops tighter rest <;> rfl

theorem readLeft_of_clear {ops : List (String × (Expr → Expr → Expr))} {first : Expr}
    (h : Clear (ops.map Prod.fst) rest) :
    readLeft all ops tighter first rest = some ⟨first, rest, Nat.le_refl _⟩ := by
  rw [readLeft, take?_of_clear h]

theorem readLeft_cons {ops : List (String × (Expr → Expr → Expr))} {sign : String}
    {join : Expr → Expr → Expr} {first second : Expr} {tokens : List Token}
    (hjoin : ops.lookup sign = some join)
    (h : plain (read all tighter tokens) = some (second, rest)) :
    plain (readLeft all ops tighter first (.sign sign :: tokens)) =
      plain (readLeft all ops tighter (join first second) rest) := by
  obtain ⟨fits, hread⟩ := exists_of_plain_eq_some h
  rw [readLeft, take?_cons hjoin]
  simp only [hread, Option.bind_eq_bind, Option.bind_some]
  cases readLeft all ops tighter (join first second) rest <;> rfl

theorem readSuffixes_of_clear {value : Expr} (h : Clear [".", "(", "["] rest) :
    readSuffixes all value rest = some ⟨value, rest, Nat.le_refl _⟩ := by
  rw [readSuffixes.eq_def]
  split
  · exact absurd (by simp) (h "." rfl)
  · exact absurd (by simp) (h "(" rfl)
  · exact absurd (by simp) (h "[" rfl)
  · rfl

end Loops

/-- What the reader does at some levels when it has read an operand of them. -/
def resume (all : List Level) : List Level → Expr → List Token → Option (Expr × List Token)
  | [], expr, rest => plain (readSuffixes all expr rest)
  | .left ops :: tighter, expr, rest => plain (readLeft all ops tighter expr rest)
  | _, expr, rest => some (expr, rest)

/-- What must not come next for an expression to be an operand that is read to its end. -/
def Room : List Level → List Token → Prop
  | [], _ => True
  | .left _ :: tighter, rest => Clear (followers tighter) rest
  | levels, rest => Clear (followers levels) rest

structure Reads (all levels : List Level) (tokens : List Token) (expr : Expr) : Prop where
  starts : ∃ first more, tokens = first :: more ∧ ∀ sign, first = .sign sign → sign ∈ starters levels
  resumes : ∀ rest, Room levels rest →
    plain (read all levels (tokens ++ rest)) = resume all levels expr rest

namespace Reads

variable {all levels tighter : List Level} {tokens rest : List Token} {expr : Expr}

/-- Before something that none of the levels goes on with, an expression is read to its end. -/
theorem whole (h : Reads all levels tokens expr) (hrest : Clear (followers levels) rest) :
    plain (read all levels (tokens ++ rest)) = some (expr, rest) := by
  cases levels with
  | nil =>
      refine (h.resumes rest trivial).trans ?_
      rw [resume, readSuffixes_of_clear hrest]
      rfl
  | cons level tighter =>
      cases level with
      | left ops =>
          obtain ⟨hops, htighter⟩ := Clear.of_append hrest
          refine (h.resumes rest htighter).trans ?_
          rw [resume, readLeft_of_clear hops]
          rfl
      | _ => exact h.resumes rest hrest

/-- An operand of a tighter level stands for itself at a looser one. -/
theorem climb {level : Level} (h : Reads all tighter tokens expr)
    (hdistinct : Distinct (level :: tighter)) : Reads all (level :: tighter) tokens expr := by
  obtain ⟨first, more, htokens, hstarts⟩ := h.starts
  refine ⟨⟨first, more, htokens, fun sign hsign => ?_⟩, fun rest hrest => ?_⟩
  · exact List.mem_append_right _ (hstarts sign hsign)
  · -- The level finds no sign of its own before the operand, and none after it.
    have hbefore : Clear level.start (tokens ++ rest) := by
      intro sign hsign hmem
      have hfirst : first = .sign sign := by simpa [htokens] using hsign
      exact hdistinct.2.1 sign hmem (hstarts sign hfirst)
    cases level with
    | left ops =>
        obtain ⟨fits, hread⟩ := exists_of_plain_eq_some (h.whole hrest)
        rw [read, hread, resume]
        simp only [Option.bind_eq_bind, Option.bind_some]
        cases readLeft all ops tighter expr rest <;> rfl
    | before ops =>
        rw [read, take?_of_clear hbefore]
        exact h.whole hrest
    | choice =>
        obtain ⟨hsign, htighter⟩ := Clear.of_append hrest
        obtain ⟨fits, hread⟩ := exists_of_plain_eq_some (h.whole htighter)
        rw [read, hread]
        simp [after?_of_clear hsign, resume, plain]
    | run sign op =>
        obtain ⟨hsign, htighter⟩ := Clear.of_append hrest
        obtain ⟨fits, hread⟩ := exists_of_plain_eq_some (h.whole htighter)
        rw [read, hread]
        simp [readRun_of_clear hsign, resume, plain, joined]
    | chain ops =>
        obtain ⟨hops, htighter⟩ := Clear.of_append hrest
        obtain ⟨fits, hread⟩ := exists_of_plain_eq_some (h.whole htighter)
        rw [read, hread]
        simp [readLinks_of_clear hops, resume, plain, chained]
    | power signs sign =>
        obtain ⟨hsign, htighter⟩ := Clear.of_append hrest
        obtain ⟨fits, hread⟩ := exists_of_plain_eq_some (h.whole htighter)
        rw [read, hread]
        simp [after?_of_clear hsign, resume, plain]

/-! ### Names, parentheses and what comes after them -/

theorem word (ident : String) : Reads all [] [.word ident] (.name ident) := by
  refine ⟨⟨_, [], rfl, by simp⟩, fun rest _ => ?_⟩
  rw [List.singleton_append, read, resume]
  cases readSuffixes all (.name ident) rest <;> rfl

theorem group (h : Reads all all tokens expr) (hclose : ")" ∉ followers all) :
    Reads all [] (.sign "(" :: (tokens ++ [.sign ")"])) expr := by
  refine ⟨⟨_, _, rfl, by simp [starters]⟩, fun rest _ => ?_⟩
  obtain ⟨fits, hinner⟩ := exists_of_plain_eq_some (h.whole (clear_cons hclose rest))
  rw [List.cons_append, List.append_assoc, List.singleton_append, read, resume]
  · simp only [after?_cons, hinner, Option.bind_eq_bind, Option.bind_some]
    cases readSuffixes all expr rest <;> rfl
  · simp

theorem member (h : Reads all [] tokens expr) (attr : String) :
    Reads all [] (tokens ++ [.sign ".", .word attr]) (.member expr attr) := by
  obtain ⟨first, more, rfl, hstarts⟩ := h.starts
  refine ⟨⟨first, _, rfl, hstarts⟩, fun rest _ => ?_⟩
  rw [List.append_assoc, h.resumes _ trivial]
  change plain (readSuffixes all expr (.sign "." :: .word attr :: rest)) = _
  rw [readSuffixes, resume]
  cases readSuffixes all (.member expr attr) rest <;> rfl

theorem subscript {inner : List Token} {index : Expr} (h : Reads all [] tokens expr)
    (hindex : Reads all all inner index) (hclose : "]" ∉ followers all) :
    Reads all [] (tokens ++ .sign "[" :: (inner ++ [.sign "]"])) (.subscript expr index) := by
  obtain ⟨first, more, rfl, hstarts⟩ := h.starts
  refine ⟨⟨first, _, rfl, hstarts⟩, fun rest _ => ?_⟩
  obtain ⟨fits, hinner⟩ := exists_of_plain_eq_some (hindex.whole (clear_cons hclose rest))
  rw [List.append_assoc, h.resumes _ trivial, resume, List.cons_append, List.append_assoc,
    List.singleton_append, readSuffixes, resume]
  simp only [after?_cons, hinner, Option.bind_eq_bind, Option.bind_some]
  cases readSuffixes all (.subscript expr index) rest <;> rfl

theorem readRun_flatMap {sign : String} {others : List (List Token)} {values : List Expr}
    (hsign : sign ∉ followers tighter) (hothers : List.Forall₂ (Reads all tighter) others values)
    (hrest : Clear [sign] rest) (hfollow : Clear (followers tighter) rest) :
    plain (readRun all sign tighter (others.flatMap (.sign sign :: ·) ++ rest)) =
      some (values, rest) := by
  induction hothers with
  | nil => exact congrArg plain (readRun_of_clear hrest)
  | cons hfirst _ ih =>
      have hnext := clear_flatMap hsign hfollow
      rw [List.flatMap_cons, List.append_assoc, List.cons_append,
        readRun_cons (hfirst.whole (hnext _)), ih]
      rfl

theorem run {sign : String} {op : BoolOp} {first second : List Token} {value next : Expr}
    {others : List (List Token)} {values : List Expr} (hsign : sign ∉ followers tighter)
    (hfirst : Reads all tighter first value) (hsecond : Reads all tighter second next)
    (hothers : List.Forall₂ (Reads all tighter) others values) :
    Reads all (.run sign op :: tighter) (separated sign (first :: second :: others))
      (.bool op (value :: next :: values)) := by
  obtain ⟨head, more, hhead, hstarts⟩ := hfirst.starts
  rw [separated_cons]
  refine ⟨⟨head, _, by rw [hhead]; rfl, fun sign hsign => ?_⟩, fun rest hrest => ?_⟩
  · exact List.mem_append_right _ (hstarts sign hsign)
  · obtain ⟨hclear, htighter⟩ := Clear.of_append hrest
    have hnext := clear_flatMap hsign htighter (second :: others)
    obtain ⟨fits, hread⟩ := exists_of_plain_eq_some (hfirst.whole hnext)
    obtain ⟨moreFits, hmore⟩ :=
      exists_of_plain_eq_some (readRun_flatMap hsign (.cons hsecond hothers) hclear htighter)
    rw [List.append_assoc, read, hread]
    simp only [Option.bind_eq_bind, Option.bind_some, hmore]
    rfl

theorem call {texts : List (List Token)} {args : List Expr} (h : Reads all [] tokens expr)
    (hargs : List.Forall₂ (Reads all all) texts args) (hcomma : "," ∉ followers all)
    (hclose : ")" ∉ followers all) (hopen : ")" ∉ starters all) :
    Reads all [] (tokens ++ .sign "(" :: (separated "," texts ++ [.sign ")"])) (.call expr args) := by
  obtain ⟨head, more, hhead, hstarts⟩ := h.starts
  refine ⟨⟨head, _, by rw [hhead]; rfl, hstarts⟩, fun rest _ => ?_⟩
  have hread : plain (readArguments all (separated "," texts ++ .sign ")" :: rest)) =
      some (args, rest) := by
    rw [readArguments]
    cases hargs with
    | nil => simp [separated, after?_cons, plain]
    | @cons first value others values hfirst hothers =>
        obtain ⟨token, tokens, hfirstTokens, hfirstStarts⟩ := hfirst.starts
        have hargument :
            Clear [")"] (first ++ (others.flatMap (.sign "," :: ·) ++ .sign ")" :: rest)) := by
          intro sign hsign hmem
          obtain rfl : sign = ")" := by simpa using hmem
          exact hopen (hfirstStarts _ (by simpa [hfirstTokens] using hsign))
        have hrest : Clear (followers all) (.sign ")" :: rest) := clear_cons hclose rest
        obtain ⟨fits, hvalue⟩ :=
          exists_of_plain_eq_some (hfirst.whole (clear_flatMap hcomma hrest others))
        obtain ⟨moreFits, hmore⟩ := exists_of_plain_eq_some
          (readRun_flatMap hcomma hothers (clear_cons (by decide) rest) hrest)
        rw [separated_cons, List.append_assoc, after?_of_clear hargument]
        simp only [hvalue, Option.bind_eq_bind, Option.bind_some, hmore, after?_cons]
        rfl
  obtain ⟨fits, hread⟩ := exists_of_plain_eq_some hread
  rw [List.append_assoc, h.resumes _ trivial, resume, List.cons_append, List.append_assoc,
    List.singleton_append, readSuffixes, hread, resume]
  simp only [Option.bind_eq_bind, Option.bind_some]
  cases readSuffixes all (.call expr args) rest <;> rfl

/-! ### Operators -/

theorem left {ops : List (String × (Expr → Expr → Expr))} {sign : String}
    {join : Expr → Expr → Expr} {others : List Token} {second : Expr}
    (hjoin : ops.lookup sign = some join) (hdistinct : Distinct (.left ops :: tighter))
    (h₁ : Reads all (.left ops :: tighter) tokens expr) (h₂ : Reads all tighter others second) :
    Reads all (.left ops :: tighter) (tokens ++ .sign sign :: others) (join expr second) := by
  obtain ⟨head, more, hhead, hstarts⟩ := h₁.starts
  refine ⟨⟨head, _, by rw [hhead]; rfl, hstarts⟩, fun rest hrest => ?_⟩
  have hsign : sign ∉ followers tighter := hdistinct.1 sign (mem_of_lookup hjoin)
  rw [List.append_assoc, List.cons_append, h₁.resumes _ (clear_cons hsign _)]
  exact readLeft_cons hjoin (h₂.whole hrest)

theorem before {ops : List (String × UnaryOp)} {sign : String} {op : UnaryOp}
    (hop : ops.lookup sign = some op) (h : Reads all (.before ops :: tighter) tokens expr) :
    Reads all (.before ops :: tighter) (.sign sign :: tokens) (.unary op expr) := by
  refine ⟨⟨_, tokens, rfl, fun found hfound => ?_⟩, fun rest hrest => ?_⟩
  · obtain rfl : sign = found := by simpa using hfound
    exact List.mem_append_left _ (mem_of_lookup hop)
  · obtain ⟨fits, hread⟩ := exists_of_plain_eq_some (h.whole hrest)
    rw [List.cons_append, read, take?_cons hop]
    simp only [hread, Option.bind_eq_bind, Option.bind_some]
    rfl

theorem power {signs : List (String × UnaryOp)} {sign : String} {others : List Token}
    {exponent : Expr} (hsign : sign ∉ followers tighter) (h₁ : Reads all tighter tokens expr)
    (h₂ : Reads all (.before signs :: .power signs sign :: tighter) others exponent) :
    Reads all (.power signs sign :: tighter) (tokens ++ .sign sign :: others)
      (.binary expr .pow exponent) := by
  obtain ⟨head, more, hhead, hstarts⟩ := h₁.starts
  refine ⟨⟨head, _, by rw [hhead]; rfl, fun found hfound => ?_⟩, fun rest hrest => ?_⟩
  · exact List.mem_append_right _ (hstarts found hfound)
  · obtain ⟨fits, hread⟩ := exists_of_plain_eq_some (h₁.whole (clear_cons hsign (others ++ rest)))
    obtain ⟨lastFits, hlast⟩ := exists_of_plain_eq_some (h₂.whole hrest)
    rw [List.append_assoc, List.cons_append, read, hread]
    simp only [after?_cons, hlast, Option.bind_eq_bind, Option.bind_some]
    rfl

theorem comparison {ops : List (String × CompareOp)} {sign : String} {op : CompareOp}
    {others : List Token} {second : Expr} (hop : ops.lookup sign = some op)
    (hsign : sign ∉ followers tighter) (h₁ : Reads all tighter tokens expr)
    (h₂ : Reads all tighter others second) :
    Reads all (.chain ops :: tighter) (tokens ++ .sign sign :: others)
      (.comparison expr op second) := by
  obtain ⟨head, more, hhead, hstarts⟩ := h₁.starts
  refine ⟨⟨head, _, by rw [hhead]; rfl, fun found hfound => ?_⟩, fun rest hrest => ?_⟩
  · exact List.mem_append_right _ (hstarts found hfound)
  · obtain ⟨hops, htighter⟩ := Clear.of_append hrest
    have hlinks := readLinks_cons hop (h₂.whole htighter)
    rw [readLinks_of_clear hops] at hlinks
    obtain ⟨fits, hread⟩ := exists_of_plain_eq_some (h₁.whole (clear_cons hsign (others ++ rest)))
    obtain ⟨linkFits, hlink⟩ := exists_of_plain_eq_some hlinks
    rw [List.append_assoc, List.cons_append, read, hread]
    simp only [hlink, Option.bind_eq_bind, Option.bind_some]
    rfl

theorem conditional {body orelse : List Token} {bodyExpr orelseExpr : Expr}
    (hquestion : "?" ∉ followers tighter) (hcolon : ":" ∉ followers tighter)
    (h₁ : Reads all tighter tokens expr) (h₂ : Reads all tighter body bodyExpr)
    (h₃ : Reads all (.choice :: tighter) orelse orelseExpr) :
    Reads all (.choice :: tighter) (tokens ++ .sign "?" :: body ++ .sign ":" :: orelse)
      (.conditional expr bodyExpr orelseExpr) := by
  obtain ⟨head, more, hhead, hstarts⟩ := h₁.starts
  refine ⟨⟨head, _, by rw [hhead]; rfl, fun found hfound => ?_⟩, fun rest hrest => ?_⟩
  · exact List.mem_append_right _ (hstarts found hfound)
  · obtain ⟨testFits, htest⟩ := exists_of_plain_eq_some
      (h₁.whole (clear_cons hquestion (body ++ .sign ":" :: (orelse ++ rest))))
    obtain ⟨bodyFits, hbody⟩ :=
      exists_of_plain_eq_some (h₂.whole (clear_cons hcolon (orelse ++ rest)))
    obtain ⟨lastFits, hlast⟩ := exists_of_plain_eq_some (h₃.whole hrest)
    have htokens : tokens ++ .sign "?" :: body ++ .sign ":" :: orelse ++ rest =
        tokens ++ .sign "?" :: (body ++ .sign ":" :: (orelse ++ rest)) := by simp
    rw [htokens, read, htest]
    simp only [after?_cons, hbody, hlast, Option.bind_eq_bind, Option.bind_some]
    rfl

end Reads

end Snippet.Formula
