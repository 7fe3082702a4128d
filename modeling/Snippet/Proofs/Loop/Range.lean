import Snippet.Proofs.Loop.Operands

/-!
# What a counting loop visits

A header whose bounds are numerals says where a counter starts, how long it goes on and what is
added to it after each turn. Run on whole numbers, such a loop visits the numbers of the range that
it is rendered from wherever the range counts up. The comparison never turns, so a range that counts
down is visited only where it starts at its stop.
-/

namespace Snippet

open Layout (BraceStyle)
open Loop
open Render Script

namespace Loop

/-! ### Numerals -/

/-- A decimal numeral; one that starts with a zero is in another base. -/
def natural? (digits : List Char) : Option Nat :=
  if digits ≠ [] ∧ digits.all Char.isDigit ∧ (digits.head? = some '0' → digits.length = 1) then
    some (Nat.ofDigitChars 10 digits 0)
  else none

def integer? : List Char → Option Int
  | '-' :: digits => (natural? digits).map fun n => -(n : Int)
  | digits => (natural? digits).map fun n => (n : Int)

theorem head?_toDigits_ne_zero {n : Nat} (hn : 0 < n) : (Nat.toDigits 10 n).head? ≠ some '0' := by
  induction n using Nat.strongRecOn with
  | _ n ih =>
      by_cases hsmall : n < 10
      · have hdigit : ∀ digit < 10, 0 < digit → Nat.digitChar digit ≠ '0' := by decide
        rw [Nat.toDigits_of_lt_base hsmall]
        simpa using hdigit n hsmall hn
      · rw [Nat.toDigits_of_base_le (by omega) (by omega),
          List.head?_append_of_ne_nil _ Nat.toDigits_ne_nil]
        exact ih (n / 10) (by omega) (by omega)

theorem natural?_toDigits (n : Nat) : natural? (Nat.toDigits 10 n) = some n := by
  have hdigits : (Nat.toDigits 10 n).all Char.isDigit = true :=
    List.all_eq_true.mpr fun c hc => Nat.isDigit_of_mem_toDigits (by decide) (by decide) hc
  have hzero : (Nat.toDigits 10 n).head? = some '0' → (Nat.toDigits 10 n).length = 1 := by
    intro hhead
    by_cases hn : 0 < n
    · exact absurd hhead (head?_toDigits_ne_zero hn)
    · obtain rfl : n = 0 := by omega
      rfl
  rw [natural?, if_pos ⟨Nat.toDigits_ne_nil, hdigits, hzero⟩, Nat.ofDigitChars_ten_toDigits]

theorem integer?_natural (n : Nat) : integer? (Nat.toDigits 10 n) = some n := by
  rw [integer?.eq_def]
  split
  · next digits heq =>
      have hminus : ('-').isDigit = true :=
        Nat.isDigit_of_mem_toDigits (b := 10) (n := n) (by decide) (by decide) (by simp [heq])
      exact absurd hminus (by decide)
  · rw [natural?_toDigits]
    rfl

theorem integer?_negated (n : Nat) : integer? ('-' :: Nat.toDigits 10 n) = some (-(n : Int)) := by
  rw [integer?, natural?_toDigits]
  rfl

/-- A number is read back from how it is written. -/
theorem integer?_toString (value : Int) : integer? (toString value).toList = some value := by
  cases value with
  | ofNat n =>
      rw [show toString (Int.ofNat n) = Nat.repr n from rfl, Nat.toList_repr, integer?_natural]
      rfl
  | negSucc n =>
      rw [show toString (Int.negSucc n) = "-" ++ Nat.repr (n + 1) from rfl, String.toList_append,
        Nat.toList_repr]
      exact integer?_negated (n + 1)

/-! ### Counters -/

/-- A loop over whole numbers: the number it stands at, when it goes on and what a turn adds. -/
structure Counter where
  current : Int
  continues : Int → Bool
  amount : Int

def Counter.next (counter : Counter) : Counter :=
  { counter with current := counter.current + counter.amount }

/-- The numbers that a loop visits. A loop that does not end visits no list. -/
inductive Counter.Visits : Counter → List Int → Prop where
  | stop {counter : Counter} (h : counter.continues counter.current = false) : counter.Visits []
  | turn {counter : Counter} {later : List Int} (h : counter.continues counter.current = true)
      (hlater : counter.next.Visits later) : counter.Visits (counter.current :: later)

theorem Counter.Visits.unique {counter : Counter} {first second : List Int}
    (h₁ : counter.Visits first) (h₂ : counter.Visits second) : first = second := by
  induction h₁ generalizing second with
  | stop hstop =>
      cases h₂ with
      | stop _ => rfl
      | turn hgoes _ => simp [hstop] at hgoes
  | turn hgoes _ ih =>
      cases h₂ with
      | stop hstop => simp [hgoes] at hstop
      | turn _ hlater => rw [ih hlater]

def comparison? : String → Option (Int → Int → Bool)
  | "<" => some fun left right => left < right
  | ">" => some fun left right => left > right
  | _ => none

def Update.amount? (target : String) : Update → Option Int
  | .increment place => if place = target then some 1 else none
  | .assign place symbol amount =>
    if place = target ∧ symbol = "+=" then integer? amount.toList else none

/-- The counter of a header whose parts are numerals and the declared target. -/
def Header.counter? (header : Header) : Option Counter := do
  let start ← integer? header.start.toList
  let compare ← comparison? header.symbol
  let bound ← integer? header.right.toList
  let amount ← header.update.amount? header.target
  if header.left = header.target then some ⟨start, fun current => compare current bound, amount⟩
  else none

/-! ### Ranges -/

/-- How many numbers a range has. -/
def rangeLength (start stop step : Int) : Nat :=
  if 0 < step ∧ start < stop then ((stop - start - 1) / step).toNat + 1
  else if step < 0 ∧ stop < start then ((start - stop - 1) / -step).toNat + 1
  else 0

/-- The numbers from a start on in steps, before a stop on the way. -/
def numbers (start stop step : Int) : List Int :=
  (List.range (rangeLength start stop step)).map fun (k : Nat) => start + k * step

example : numbers 10 0 (-3) = [10, 7, 4, 1] := by decide

section Ranges

variable {start stop step : Int}

theorem numbers_eq_nil (hstep : 0 < step) (h : stop ≤ start) : numbers start stop step = [] := by
  rw [numbers, rangeLength, if_neg (by omega), if_neg (by omega)]
  rfl

theorem rangeLength_succ (hstep : 0 < step) (h : start < stop) :
    rangeLength start stop step = rangeLength (start + step) stop step + 1 := by
  rw [rangeLength, if_pos ⟨hstep, h⟩, rangeLength]
  by_cases hlater : start + step < stop
  · have hturn : stop - start - 1 = stop - (start + step) - 1 + 1 * step := by omega
    have hnonneg : 0 ≤ (stop - (start + step) - 1) / step :=
      Int.ediv_nonneg (by omega) (Int.le_of_lt hstep)
    rw [if_pos ⟨hstep, hlater⟩, hturn, Int.add_mul_ediv_right _ _ (by omega)]
    omega
  · rw [if_neg (by omega), if_neg (by omega), Int.ediv_eq_zero_of_lt (by omega) (by omega)]
    rfl

theorem numbers_eq_cons (hstep : 0 < step) (h : start < stop) :
    numbers start stop step = start :: numbers (start + step) stop step := by
  rw [numbers, rangeLength_succ hstep h, List.range_succ_eq_map, List.map_cons, List.map_map,
    numbers]
  congr 1
  · simp
  · refine List.map_congr_left fun k _ => ?_
    rw [Function.comp_apply, Nat.succ_eq_add_one, Int.natCast_add, Int.add_mul]
    simp only [Int.natCast_one, Int.one_mul]
    omega

theorem numbers_ne_nil_of_neg (hstep : step < 0) (h : stop < start) :
    numbers start stop step ≠ [] := by
  rw [numbers, rangeLength, if_neg (by omega), if_pos ⟨hstep, h⟩]
  simp

/-! ### Loops below a bound -/

/-- A loop that goes on below a bound. -/
def below (start stop step : Int) : Counter := ⟨start, fun current => current < stop, step⟩

theorem continues_below : (below start stop step).continues start = true ↔ start < stop := by
  simp [below]

theorem visits_numbers (hstep : 0 < step) :
    (below start stop step).Visits (numbers start stop step) := by
  induction hleft : (stop - start).toNat using Nat.strongRecOn generalizing start with
  | _ left ih =>
      by_cases h : start < stop
      · rw [numbers_eq_cons hstep h]
        have hlater : (below (start + step) stop step).Visits (numbers (start + step) stop step) :=
          ih (stop - (start + step)).toNat (by omega) rfl
        exact .turn (continues_below.mpr h) hlater
      · rw [numbers_eq_nil hstep (by omega)]
        exact .stop (Bool.eq_false_iff.mpr fun hgoes => h (continues_below.mp hgoes))

theorem visits_nil (h : stop ≤ start) : (below start stop step).Visits [] :=
  .stop (Bool.eq_false_iff.mpr fun hgoes => by
    have hlt := continues_below.mp hgoes
    omega)

/-- A loop that starts below its bound and counts down does not end. -/
theorem not_visits (hstep : step < 0) (h : start < stop) (visited : List Int) :
    ¬ (below start stop step).Visits visited := by
  induction visited generalizing start with
  | nil =>
      rintro ⟨hstop⟩
      exact Bool.false_ne_true (hstop.symm.trans (continues_below.mpr h))
  | cons number later ih =>
      rintro (_ | ⟨-, hlater⟩)
      have hlower : start + step < stop := by omega
      exact ih hlower hlater

theorem visits_numbers_iff (hstep : step ≠ 0) :
    (below start stop step).Visits (numbers start stop step) ↔ 0 < step ∨ start = stop := by
  refine ⟨fun hvisits => ?_, fun h => ?_⟩
  · by_contra hnot
    have hdown : step < 0 := by omega
    rcases Int.lt_or_gt_of_ne (a := start) (b := stop) (by omega) with hbelow | habove
    · exact not_visits hdown hbelow _ hvisits
    · have hnone : (below start stop step).Visits [] := visits_nil (Int.le_of_lt habove)
      exact numbers_ne_nil_of_neg hdown habove (hvisits.unique hnone)
  · rcases h with hup | rfl
    · exact visits_numbers hup
    · have hnil : numbers start start step = [] := by
        rw [numbers, rangeLength, if_neg (by omega), if_neg (by omega)]
        rfl
      rw [hnil]
      exact visits_nil (Int.le_refl _)

end Ranges

/-- A numeral of a value, which stands where any bound of a loop does. -/
structure IsNumeral (value : Int) (text : String) : Prop where
  integer?_eq : integer? text.toList = some value
  spoken : Spoken Level.shift text

end Loop

/-! ### Literals -/

/-- The value of an integer literal or of a negated one. -/
def Expr.literal? : Expr → Option Int
  | .constant (.int value) => some value.toInt
  | .unary .minus (.constant (.int value)) =>
    if 0 ≤ value.toInt then some (-value.toInt) else none
  | _ => none

theorem Expr.literal?_eq_some {expr : Expr} {value : Int} (h : expr.literal? = some value) :
    (∃ n : Int64, expr = .constant (.int n) ∧ value = n.toInt) ∨
      ∃ n : Int64, expr = .unary .minus (.constant (.int n)) ∧ 0 ≤ n.toInt ∧ value = -n.toInt := by
  rw [Expr.literal?.eq_def] at h
  split at h
  · exact .inl ⟨_, rfl, (Option.some.inj h).symm⟩
  · obtain ⟨hsign, hvalue⟩ := Option.ite_none_right_eq_some.mp h
    exact .inr ⟨_, rfl, hsign, (Option.some.inj hvalue).symm⟩
  · cases h

section Loops

variable {dialect : Dialect} {style : BraceStyle} {target : Target} {around : Surroundings}
  {asType : Bool}

theorem Expr.exists_text_literal {expr : Expr} {value : Int} (h : expr.literal? = some value) :
    ∃ text, expr.render (.curly dialect style) around asType = .ok text ∧
      integer? text.toList = some value := by
  rcases Expr.literal?_eq_some h with ⟨n, rfl, rfl⟩ | ⟨n, rfl, hsign, rfl⟩
  · exact ⟨_, rfl, integer?_toString n.toInt⟩
  · obtain ⟨k, hk⟩ := Int.eq_ofNat_of_zero_le hsign
    have hdigits : (toString n.toInt).toList = Nat.toDigits 10 k := by
      rw [hk, show toString (k : Int) = Nat.repr k from rfl, Nat.toList_repr]
    refine ⟨"-" ++ toString n.toInt, ?_, ?_⟩
    · cases dialect <;> rfl
    · rw [String.toList_append, hdigits, hk]
      exact integer?_negated k

theorem Expr.spoken_literal {expr : Expr} {value : Int} (h : expr.literal? = some value)
    {text : String} (hrender : expr.render (.curly dialect style) around asType = .ok text) :
    Spoken Level.shift text := by
  rcases Expr.literal?_eq_some h with ⟨n, rfl, -⟩ | ⟨n, rfl, -, -⟩
  · have hspoken := Expr.spoken_of_render rfl (by simp [Expr.leaves, LeafIsClear]) hrender
    rw [Expr.bond] at hspoken
    exact ⟨hspoken.1.mono (by decide), hspoken.2⟩
  · have hspoken := Expr.spoken_of_render rfl (by simp [Expr.leaves, LeafIsClear]) hrender
    rw [Expr.bond, Expr.bond] at hspoken
    have hbond : ∀ strength, Level.shift ≤ min (Operator.unary .minus).level
        (within strength Strength.unary Level.arithmetic) :=
      fun strength => Nat.le_min.mpr ⟨by decide, le_within (by decide) (by decide) _ _⟩
    exact ⟨hspoken.1.mono (hbond _), hspoken.2⟩

/-- A literal is rendered as a numeral of its value. -/
theorem Expr.exists_numeral {expr : Expr} {value : Int} (h : expr.literal? = some value) :
    ∃ text, expr.render (.curly dialect style) around asType = .ok text ∧ IsNumeral value text := by
  obtain ⟨text, htext, hvalue⟩ := Expr.exists_text_literal h
  exact ⟨text, htext, hvalue, Expr.spoken_literal h htext⟩

theorem Expr.exists_numerals {args : List Expr} {values : List Int}
    (h : List.Forall₂ (fun arg value => arg.literal? = some value) args values) :
    ∃ texts, Expr.renderAll (.curly dialect style) around asType args = .ok texts ∧
      List.Forall₂ IsNumeral values texts := by
  induction h with
  | nil => exact ⟨[], rfl, .nil⟩
  | @cons arg value _ _ harg _ ih =>
      obtain ⟨text, htext, hnumeral⟩ := Expr.exists_numeral harg
      obtain ⟨texts, htexts, hall⟩ := ih
      refine ⟨text :: texts, ?_, .cons hnumeral hall⟩
      rw [Expr.renderAll, htext, htexts]
      rfl

theorem any_isStarred_literals {args : List Expr} {values : List Int}
    (h : List.Forall₂ (fun arg value => arg.literal? = some value) args values) :
    args.any Expr.isStarred = false := by
  induction h with
  | nil => rfl
  | @cons arg value _ _ harg _ ih =>
      have hnot : arg.isStarred = false := by
        rcases Expr.literal?_eq_some harg with ⟨n, rfl, -⟩ | ⟨n, rfl, -, -⟩ <;> rfl
      rw [List.any_cons, hnot, ih]
      rfl

/-- The numerals of a header are the values that they were rendered from. -/
theorem counter?_headerOf {target : String} {counted : RangeOf Int} {spelled : RangeOf String}
    (hstart : Option.Rel IsNumeral counted.start spelled.start)
    (hstop : IsNumeral counted.stop spelled.stop)
    (hstep : Option.Rel IsNumeral counted.step spelled.step) :
    (headerOf dialect target spelled).counter? =
      some (below (counted.start.getD 0) counted.stop (counted.step.getD 1)) := by
  obtain ⟨start, stop, step⟩ := counted
  obtain ⟨startText, stopText, stepText⟩ := spelled
  have hfirst : integer? (startText.getD "0").toList = some (start.getD 0) := by
    cases hstart with
    | none => decide
    | some hnumeral => exact hnumeral.integer?_eq
  have hamount : (updateOf target stepText).amount? target = some (step.getD 1) := by
    cases hstep with
    | none => simp [updateOf, Update.amount?]
    | some hnumeral => simpa [updateOf, Update.amount?] using hnumeral.integer?_eq
  have hbound : integer? stopText.toList = some stop := hstop.integer?_eq
  simp [Header.counter?, headerOf, hfirst, hbound, hamount, comparison?, below]

theorem Expr.exists_rangeItems {args : List Expr} {texts : List String} {bounds : Bounds}
    (hstarred : args.any Expr.isStarred = false)
    (htexts : Expr.renderAll (.curly dialect style) around false args = .ok texts)
    (hbounds : Bounds.ofArguments texts = some bounds) :
    ∃ call, (Expr.call (.name "range") args).renderLoopItems (.curly dialect style) around =
      .ok (.range bounds call) := by
  have hrange : (Expr.call (.name "range") args).rangeArguments? = some args := by
    simp [Expr.rangeArguments?, hstarred]
  obtain ⟨call, hcall⟩ : ∃ call,
      (Expr.call (.name "range") args).render (.curly dialect style) around false = .ok call := by
    rw [Expr.render, Expr.render, htexts]
    exact ⟨_, rfl⟩
  refine ⟨call, ?_⟩
  rw [Expr.renderLoopItems, hrange]
  simp only [bind, Except.bind, htexts, hbounds, hcall]
  rfl

/-- A loop over a range of literals is read as one that visits the numbers of the range just where
the range counts up or starts at its stop. -/
theorem forLoop_visits_numbers (dialect : Dialect) (style : BraceStyle) (around : Surroundings)
    {ident : String} {args : List Expr} {values : List Int} {counted : RangeOf Int}
    (hident : IsName ident)
    (hargs : List.Forall₂ (fun arg value => arg.literal? = some value) args values)
    (hcounted : RangeOf.ofList? values = some counted) (hstep : counted.step.getD 1 ≠ 0)
    (body : List Stmt) :
    ∃ header counter,
      style.opening header <+: ((StmtKind.forLoop (.name ident) (.call (.name "range") args) body
        false).render (.curly dialect style) around).steps ∧
      (readHeader? dialect header).bind Header.counter? = some counter ∧
      (counter.Visits (numbers (counted.start.getD 0) counted.stop (counted.step.getD 1)) ↔
        0 < counted.step.getD 1 ∨ counted.start.getD 0 = counted.stop) := by
  obtain ⟨texts, htexts, hrelated⟩ : ∃ texts,
      Expr.renderAll (.curly dialect style) around false args = .ok texts ∧
        List.Forall₂ IsNumeral values texts := Expr.exists_numerals hargs
  obtain ⟨spelled, hspelled, hbounds, hstart, hstop, hamount⟩ :=
    RangeOf.exists_spelled hcounted hrelated
  obtain ⟨call, hitems⟩ :=
    Expr.exists_rangeItems (any_isStarred_literals hargs) htexts hbounds
  have hname : (Expr.name ident).render (.curly dialect style) around false =
    .ok (dialect.name around ident) := rfl
  have hspoken := Expr.spoken_of_render rfl (by simpa [Expr.leaves, LeafIsClear] using hident) hname
  have hloose : ∀ {value : Int} {text : String}, IsNumeral value text →
      Spoken Level.conditional text :=
    fun h => ⟨h.spoken.1.mono (by decide), h.spoken.2⟩
  obtain ⟨header, hheader, hread⟩ := readHeader?_countingLoop dialect spelled hspoken
    (spoken_of_rel hstart hloose) hstop.spoken (spoken_of_rel hamount hloose)
  have hbegun : Target.beginFor? (.curly dialect style) (dialect.name around ident)
      (.range ⟨spelled.start, some spelled.stop, spelled.step⟩ call) false =
        some (style.opening header) := by
    simp [Target.beginFor?, Dialect.forHeader?, hheader]
  have hprefix := StmtKind.prefix_forLoop body hname hitems hbegun
  refine ⟨header, _, hprefix, ?_, visits_numbers_iff hstep⟩
  rw [hread, Option.bind_some]
  exact counter?_headerOf hstart hstop hamount

/-- From minus two up to eleven by fours. -/
theorem forLoop_visits_numbers_up :
    let two := Expr.constant (.int 2)
    let args := [Expr.unary .minus two, .constant (.int 11), .constant (.int 4)]
    let loop := StmtKind.forLoop (.name "i") (.call (.name "range") args) [] false
    (IsName "i" ∧
      List.Forall₂ (fun arg value => Expr.literal? arg = some value) args [-2, 11, 4] ∧
      RangeOf.ofList? [(-2 : Int), 11, 4] = some ⟨some (-2), 11, some 4⟩ ∧ (4 : Int) ≠ 0) ∧
    ∃ header counter,
      BraceStyle.allman.opening header <+: (loop.render (.curly .cpp .allman) .outermost).steps ∧
      (readHeader? .cpp header).bind Header.counter? = some counter ∧
      counter.Visits [-2, 2, 6, 10] := by
  intro two args loop
  have hident : IsName "i" := by decide
  have hargs : List.Forall₂ (fun arg value => Expr.literal? arg = some value) args [-2, 11, 4] :=
    .cons rfl (.cons rfl (.cons rfl .nil))
  have hcounted : RangeOf.ofList? [(-2 : Int), 11, 4] = some ⟨some (-2), 11, some 4⟩ := rfl
  refine ⟨⟨hident, hargs, hcounted, by decide⟩, ?_⟩
  obtain ⟨header, counter, hprefix, hread, hvisits⟩ := forLoop_visits_numbers .cpp .allman
    .outermost hident hargs hcounted (by decide) []
  exact ⟨header, counter, hprefix, hread, hvisits.mpr (.inl (by decide))⟩

/-- From three down to zero a loop visits nothing, and one that counts down away from its bound does
not end, where the range is empty. -/
theorem forLoop_counts_down :
    let minus := Expr.unary .minus (.constant (.int 1))
    let counted := fun (start stop : Int64) =>
      (StmtKind.forLoop (.name "i") (.call (.name "range")
        [.constant (.int start), .constant (.int stop), minus]) [] false).render
          (.curly .cpp .allman) .outermost
    (numbers 3 0 (-1) = [3, 2, 1] ∧
      BraceStyle.allman.opening "for ( int i = 3; i < 0; i += -1 )" <+: (counted 3 0).steps ∧
      ∃ counter,
        (readHeader? .cpp "for ( int i = 3; i < 0; i += -1 )").bind Header.counter? =
          some counter ∧
        counter.Visits [] ∧ ¬ counter.Visits [3, 2, 1]) ∧
    numbers 0 10 (-1) = [] ∧
      BraceStyle.allman.opening "for ( int i = 0; i < 10; i += -1 )" <+: (counted 0 10).steps ∧
      ∃ counter,
        (readHeader? .cpp "for ( int i = 0; i < 10; i += -1 )").bind Header.counter? =
          some counter ∧
        ∀ visited, ¬ counter.Visits visited := by
  intro minus counted
  have hdown : readHeader? .cpp "for ( int i = 3; i < 0; i += -1 )" =
      some ⟨"int", "i", "3", "i", "<", "0", .assign "i" "+=" "-1"⟩ := by decide +kernel
  have haway : readHeader? .cpp "for ( int i = 0; i < 10; i += -1 )" =
      some ⟨"int", "i", "0", "i", "<", "10", .assign "i" "+=" "-1"⟩ := by decide +kernel
  have hnone : (below 3 0 (-1)).Visits [] := visits_nil (by decide)
  refine ⟨⟨by decide, ⟨_, rfl⟩, below 3 0 (-1), ?_, hnone, fun hvisits => ?_⟩,
    by decide, ⟨_, rfl⟩, below 0 10 (-1), ?_, not_visits (by decide) (by decide)⟩
  · rw [hdown]
    rfl
  · exact nomatch hvisits.unique hnone
  · rw [haway]
    rfl

end Loops

end Snippet
