import Mathlib
import Snippet.Source.Literal
import Snippet.Target.Hooks

/-!
# Integer literals are exact or refused

A natural number has many spellings: digits of a base in either case, as many zeros in front as one
likes, an underscore between two digits, and for every base but ten a prefix with a letter in either
case. The reader takes the underscores out and goes through the digits with a bound on what it has so
far. What it has never sinks, so it stops at the bound exactly when the whole number is past it.
-/

namespace Snippet.Source

open Number (digitValue twoTo)

/-! ### Spellings -/

/-- A digit of a base, in either case, and its value. -/
def IsDigitOf (base : Nat) (c : Char) (value : Nat) : Prop :=
  value < base ∧ (c = Nat.digitChar value ∨ c = (Nat.digitChar value).toUpper)

/-- Digits of a base, with at most one underscore between two of them, and their number. -/
inductive SpellsDigits (base : Nat) : List Char → Nat → Prop where
  | digit {c : Char} {value : Nat} (hc : IsDigitOf base c value) : SpellsDigits base [c] value
  | next {text : List Char} {n : Nat} {c : Char} {value : Nat} (h : SpellsDigits base text n)
      (hc : IsDigitOf base c value) : SpellsDigits base (text ++ [c]) (n * base + value)
  | apart {text : List Char} {n : Nat} {c : Char} {value : Nat} (h : SpellsDigits base text n)
      (hc : IsDigitOf base c value) : SpellsDigits base (text ++ ['_', c]) (n * base + value)

/-- The letters that name a base behind a zero. -/
def baseLetters : List (Char × Nat) :=
  [('x', 16), ('X', 16), ('o', 8), ('O', 8), ('b', 2), ('B', 2)]

/-- The spellings of a natural number. An underscore may also stand behind the letter of a base. -/
inductive SpellsNatural : List Char → Nat → Prop where
  | decimal {text : List Char} {n : Nat} (h : SpellsDigits 10 text n) : SpellsNatural text n
  | based {letter : Char} {base : Nat} {text : List Char} {n : Nat}
      (hletter : (letter, base) ∈ baseLetters) (h : SpellsDigits base text n) :
      SpellsNatural ('0' :: letter :: text) n
  | basedApart {letter : Char} {base : Nat} {text : List Char} {n : Nat}
      (hletter : (letter, base) ∈ baseLetters) (h : SpellsDigits base text n) :
      SpellsNatural ('0' :: letter :: '_' :: text) n

theorem digitValue_of_isDigitOf {base value : Nat} {c : Char} (hbase : base ≤ 16)
    (h : IsDigitOf base c value) : digitValue c = value := by
  have hlower : ∀ value < 16, digitValue (Nat.digitChar value) = value := by decide
  have hupper : ∀ value < 16, digitValue (Nat.digitChar value).toUpper = value := by decide
  obtain ⟨hvalue, rfl | rfl⟩ := h
  · exact hlower value (by omega)
  · exact hupper value (by omega)

theorem isDigitOf_digitChar {base value : Nat} (h : value < base) :
    IsDigitOf base (Nat.digitChar value) value :=
  ⟨h, .inl rfl⟩

theorem spellsDigits_toDigits {base : Nat} (hbase : 1 < base) (n : Nat) :
    SpellsDigits base (Nat.toDigits base n) n := by
  induction n using Nat.strong_induction_on with
  | _ n ih =>
      by_cases hsmall : n < base
      · rw [Nat.toDigits_of_lt_base hsmall]
        exact .digit (isDigitOf_digitChar hsmall)
      · rw [Nat.toDigits_of_base_le hbase (by omega)]
        have hless : n / base < n := Nat.div_lt_self (by omega) hbase
        have hlast : IsDigitOf base (Nat.digitChar (n % base)) (n % base) :=
          isDigitOf_digitChar (Nat.mod_lt n (by omega))
        simpa [Nat.div_add_mod'] using (ih (n / base) hless).next hlast

/-! ### Digits with a bound -/

/-- A value with more digits after it. -/
def valueFrom (base value : Nat) (digits : List Char) : Nat :=
  digits.foldl (fun n c => n * base + digitValue c) value

theorem le_valueFrom {base : Nat} (hbase : 0 < base) (digits : List Char) (value : Nat) :
    value ≤ valueFrom base value digits := by
  induction digits generalizing value with
  | nil => exact Nat.le_refl value
  | cons c digits ih =>
      calc value
          ≤ value * base := Nat.le_mul_of_pos_right value hbase
        _ ≤ value * base + digitValue c := Nat.le_add_right _ _
        _ ≤ valueFrom base value (c :: digits) := ih _

theorem readDigits_eq {base bound : Nat} (hbase : 0 < base) (past : IntegerFault)
    {digits : List Char} (hdigits : ∀ c ∈ digits, digitValue c < base) {value : Nat}
    (hvalue : value ≤ bound) :
    readDigits base bound past value digits =
      if valueFrom base value digits ≤ bound then .ok (valueFrom base value digits)
      else .error past := by
  induction digits generalizing value with
  | nil => exact (if_pos hvalue).symm
  | cons c digits ih =>
      have hc : digitValue c < base := hdigits c (List.mem_cons_self ..)
      unfold readDigits
      rw [if_pos hc]
      by_cases hnext : value * base + digitValue c ≤ bound
      · simp only [if_pos hnext]
        exact ih (fun d hd => hdigits d (List.mem_cons_of_mem c hd)) hnext
      · have hpast : ¬ valueFrom base value (c :: digits) ≤ bound := by
          have hle := le_valueFrom hbase digits (value * base + digitValue c)
          intro hbound
          exact hnext (Nat.le_trans hle hbound)
        simp only [if_neg hnext, if_neg hpast]

/-! ### What is left of a spelling without its underscores -/

/-- Some digits, all of them of a base, and their number. -/
structure Digits (base : Nat) (text : List Char) (n : Nat) : Prop where
  some : text ≠ []
  below : ∀ c ∈ text, digitValue c < base
  value : valueFrom base 0 text = n

theorem ne_underscore_of_digitValue {base : Nat} (hbase : base ≤ 16) {c : Char}
    (h : digitValue c < base) : c ≠ '_' := by
  rintro rfl
  have hvalue : digitValue '_' = 36 := by decide
  omega

theorem filter_singleton {base : Nat} (hbase : base ≤ 16) {c : Char} (h : digitValue c < base) :
    [c].filter (· != '_') = [c] := by
  simp [ne_underscore_of_digitValue hbase h]

/-- One more digit, with or without an underscore before it. -/
theorem Digits.next {base : Nat} (hbase : base ≤ 16) {text : List Char} {n value : Nat} {c : Char}
    (h : Digits base text n) (hc : IsDigitOf base c value) :
    Digits base (text ++ [c]) (n * base + value) where
  some := by simp
  below := by
    intro d hd
    rcases List.mem_append.mp hd with hd | hd
    · exact h.below d hd
    · rw [List.mem_singleton.mp hd, digitValue_of_isDigitOf hbase hc]
      exact hc.1
  value := by
    calc valueFrom base 0 (text ++ [c])
        = valueFrom base 0 text * base + digitValue c := by simp [valueFrom]
      _ = n * base + value := by rw [h.value, digitValue_of_isDigitOf hbase hc]

theorem SpellsDigits.digits {base : Nat} (hbase : base ≤ 16) {text : List Char} {n : Nat}
    (h : SpellsDigits base text n) : Digits base (text.filter (· != '_')) n := by
  have below {c : Char} {value : Nat} (hc : IsDigitOf base c value) : digitValue c < base := by
    rw [digitValue_of_isDigitOf hbase hc]
    exact hc.1
  induction h with
  | digit hc =>
      rw [filter_singleton hbase (below hc)]
      exact ⟨by simp, by simpa using below hc, by
        simp [valueFrom, digitValue_of_isDigitOf hbase hc]⟩
  | next _ hc ih =>
      rw [List.filter_append, filter_singleton hbase (below hc)]
      exact ih.next hbase hc
  | apart _ hc ih =>
      rw [List.filter_append, List.filter_cons_of_neg (by decide), filter_singleton hbase (below hc)]
      exact ih.next hbase hc

theorem Digits.isImaginary_eq {base : Nat} (hbase : base ≤ 16) {text : List Char} {n : Nat}
    (h : Digits base text n) (front : List Char) : isImaginary (front ++ text) = false := by
  have hj : digitValue 'j' = 19 ∧ digitValue 'J' = 19 := by decide
  have hlast := h.below _ (List.getLast_mem h.some)
  unfold isImaginary
  rw [List.getLast?_append_of_ne_nil _ h.some, List.getLast?_eq_some_getLast h.some, Option.any_some]
  by_contra himaginary
  simp only [Bool.not_eq_false, Bool.or_eq_true, beq_iff_eq] at himaginary
  rcases himaginary with heq | heq <;> rw [heq] at hlast <;> omega

/-! ### Bases -/

/-- A digit of base ten does not name a base. -/
theorem integerValue_decimal {digits : List Char} (h : ∀ c ∈ digits, digitValue c < 10) :
    integerValue digits = readWhole 10 digits := by
  fun_cases integerValue digits
  case case7 => rfl
  all_goals exact absurd (List.forall_mem_cons.mp (List.forall_mem_cons.mp h).2).1 (by decide)

theorem integerValue_based {letter : Char} {base : Nat} (h : (letter, base) ∈ baseLetters)
    (digits : List Char) : integerValue ('0' :: letter :: digits) = readWhole base digits := by
  simp only [baseLetters, List.mem_cons, Prod.mk.injEq, List.not_mem_nil, or_false] at h
  rcases h with ⟨rfl, rfl⟩ | ⟨rfl, rfl⟩ | ⟨rfl, rfl⟩ | ⟨rfl, rfl⟩ | ⟨rfl, rfl⟩ | ⟨rfl, rfl⟩ <;> rfl

theorem base_of_mem_baseLetters {letter : Char} {base : Nat} (h : (letter, base) ∈ baseLetters) :
    0 < base ∧ base ≤ 16 ∧ letter ≠ '_' := by
  have hall : ∀ entry ∈ baseLetters, 0 < entry.2 ∧ entry.2 ≤ 16 ∧ entry.1 ≠ '_' := by decide
  exact hall (letter, base) h

/-- What the reader makes of a number: the number below the bound, and nothing from there on. -/
def bounded (n : Nat) : Except IntegerFault Int64 :=
  if n < twoTo 63 then .ok (.ofNat n) else .error .tooLarge

theorem ne_sign_of_digitValue {base : Nat} (hbase : base ≤ 16) {c : Char}
    (h : digitValue c < base) : c ≠ '+' ∧ c ≠ '-' := by
  have hvalue : digitValue '+' = 36 ∧ digitValue '-' = 36 := by decide
  constructor <;> rintro rfl <;> omega

theorem readWhole_unsigned {base : Nat} {c : Char} (h : c ≠ '+' ∧ c ≠ '-') (rest : List Char) :
    readWhole base (c :: rest) =
      (readDigits base (twoTo 63 - 1) .tooLarge 0 (c :: rest)).map .ofNat := by
  obtain ⟨hplus, hminus⟩ := h
  unfold readWhole
  split <;> simp_all

theorem Digits.readWhole_eq_bounded {base : Nat} (hpos : 0 < base) (hbase : base ≤ 16)
    {text : List Char} {n : Nat} (h : Digits base text n) : readWhole base text = bounded n := by
  obtain ⟨c, rest, rfl⟩ := List.exists_cons_of_ne_nil h.some
  have hbound : twoTo 63 = 2 ^ 63 := by decide
  rw [readWhole_unsigned (ne_sign_of_digitValue hbase (h.below c (List.mem_cons_self ..))),
    readDigits_eq hpos .tooLarge h.below (Nat.zero_le _), h.value, bounded]
  by_cases hn : n < twoTo 63
  · rw [if_pos hn, if_pos (by omega)]
    rfl
  · rw [if_neg hn, if_neg (by omega)]
    rfl

theorem SpellsNatural.spec {text : List Char} {n : Nat} (h : SpellsNatural text n) :
    isImaginary (text.filter (· != '_')) = false ∧
      integerValue (text.filter (· != '_')) = bounded n := by
  cases h with
  | decimal h =>
      have hdigits := h.digits (by decide)
      refine ⟨hdigits.isImaginary_eq (by decide) [], ?_⟩
      rw [integerValue_decimal hdigits.below, hdigits.readWhole_eq_bounded (by decide) (by decide)]
  | based hletter h =>
      obtain ⟨hpos, hbase, hne⟩ := base_of_mem_baseLetters hletter
      have hdigits := h.digits hbase
      rw [List.filter_cons_of_pos (by decide), List.filter_cons_of_pos (by simpa using hne)]
      refine ⟨hdigits.isImaginary_eq hbase ['0', _], ?_⟩
      rw [integerValue_based hletter, hdigits.readWhole_eq_bounded hpos hbase]
  | basedApart hletter h =>
      obtain ⟨hpos, hbase, hne⟩ := base_of_mem_baseLetters hletter
      have hdigits := h.digits hbase
      rw [List.filter_cons_of_pos (by decide), List.filter_cons_of_pos (by simpa using hne),
        List.filter_cons_of_neg (by decide)]
      refine ⟨hdigits.isImaginary_eq hbase ['0', _], ?_⟩
      rw [integerValue_based hletter, hdigits.readWhole_eq_bounded hpos hbase]

theorem readInteger_eq {text : String} {n : Nat} (h : SpellsNatural text.toList n) (line : UInt64) :
    readInteger line text =
      if n < twoTo 63 then .ok (.constant (.int (Int64.ofNat n)))
      else .error (.badInteger (String.ofList (withoutUnderscores text)) .tooLarge) := by
  obtain ⟨himaginary, hvalue⟩ := h.spec
  unfold readInteger withoutUnderscores
  simp only [himaginary, hvalue, bounded]
  by_cases hn : n < twoTo 63
  · simp [hn]
  · simp [hn]

/-! ### Constants -/

theorem constant_int (target : Target) (value : Int64) (asType : Bool) :
    target.constant (.int value) asType = toString value.toInt := by
  cases target <;> rfl

theorem toInt_ofNat {n : Nat} (h : n < twoTo 63) : (Int64.ofNat n).toInt = n :=
  Int64.toInt_ofNat_of_lt h

/-- The text of a constant is the shortest spelling in base ten. -/
theorem spellsNatural_constant {n : Nat} (h : n < twoTo 63) (target : Target) (asType : Bool) :
    SpellsNatural (target.constant (.int (Int64.ofNat n)) asType).toList n := by
  rw [constant_int, toInt_ofNat h, show toString (n : Int) = Nat.repr n from rfl, Nat.toList_repr]
  exact .decimal (spellsDigits_toDigits (by decide) n)

/-- A spelling of a number up to the greatest constant is read as that number, whose text in every
target is a spelling of it again; a spelling of any number past it is an error. -/
theorem readInteger_exact {text : String} {n : Nat} (h : SpellsNatural text.toList n) (line : UInt64) :
    (n ≤ 2 ^ 63 - 1 →
      ∃ value : Int64, value.toInt = n ∧ readInteger line text = .ok (.constant (.int value)) ∧
        ∀ (target : Target) (asType : Bool),
          SpellsNatural (target.constant (.int value) asType).toList n ∧
            readInteger line (target.constant (.int value) asType) =
              .ok (.constant (.int value))) ∧
    (2 ^ 63 - 1 < n →
      readInteger line text =
        .error (.badInteger (String.ofList (withoutUnderscores text)) .tooLarge)) := by
  have hbound : twoTo 63 = 2 ^ 63 := by decide
  constructor
  · intro hn
    have hlt : n < twoTo 63 := by omega
    refine ⟨Int64.ofNat n, toInt_ofNat hlt, ?_, ?_⟩
    · rw [readInteger_eq h, if_pos hlt]
    · intro target asType
      have hspells := spellsNatural_constant hlt target asType
      refine ⟨hspells, ?_⟩
      rw [readInteger_eq hspells, if_pos hlt]
  · intro hn
    have hnot : ¬ n < twoTo 63 := by omega
    rw [readInteger_eq h, if_neg hnot]

/-- The greatest constant in base sixteen, the first number past it, and a spelling with capitals and
underscores. -/
theorem readInteger_exact_bound :
    (∃ value : Int64, value.toInt = (2 ^ 63 - 1 : Nat) ∧
        readInteger 1 "0x7fffffffffffffff" = .ok (.constant (.int value)) ∧
        ∀ (target : Target) (asType : Bool),
          SpellsNatural (target.constant (.int value) asType).toList (2 ^ 63 - 1) ∧
            readInteger 1 (target.constant (.int value) asType) = .ok (.constant (.int value))) ∧
      readInteger 1 "9223372036854775808" =
        .error (.badInteger (String.ofList (withoutUnderscores "9223372036854775808")) .tooLarge) ∧
      ∃ value : Int64, value.toInt = (31 : Nat) ∧
        readInteger 1 "0X_1_F" = .ok (.constant (.int value)) ∧
        ∀ (target : Target) (asType : Bool),
          SpellsNatural (target.constant (.int value) asType).toList 31 ∧
            readInteger 1 (target.constant (.int value) asType) = .ok (.constant (.int value)) := by
  have hgreatest : SpellsNatural "0x7fffffffffffffff".toList (2 ^ 63 - 1) := by
    have hdigits : SpellsDigits 16 (Nat.toDigits 16 (2 ^ 63 - 1)) (2 ^ 63 - 1) :=
      spellsDigits_toDigits (by decide) _
    have hletter : ('x', 16) ∈ baseLetters := by decide
    exact .based hletter hdigits
  have hpast : SpellsNatural "9223372036854775808".toList (2 ^ 63) :=
    .decimal (spellsDigits_toDigits (by decide) (2 ^ 63))
  have happart : SpellsNatural "0X_1_F".toList 31 := by
    have hletter : ('X', 16) ∈ baseLetters := by decide
    have hone : IsDigitOf 16 '1' 1 := ⟨by decide, .inl rfl⟩
    have hcapital : IsDigitOf 16 'F' 15 := ⟨by decide, .inr rfl⟩
    exact .basedApart hletter ((SpellsDigits.digit hone).apart hcapital)
  exact ⟨(readInteger_exact hgreatest 1).1 (by decide), (readInteger_exact hpast 1).2 (by decide),
    (readInteger_exact happart 1).1 (by decide)⟩

end Snippet.Source
