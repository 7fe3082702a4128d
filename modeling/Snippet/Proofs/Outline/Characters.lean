import Snippet.Proofs.Outline.Texts

/-!
# The characters of spellings

A spelling of a name, a constant or a comment has the characters of what it spells and a few fixed
ones.
-/

namespace Snippet

open Number
open Text

variable {Allowed : Char → Prop}

/-! ### Names -/

theorem isUpper_toUpper {c : Char} (h : c.isLower = true) : c.toUpper.isUpper = true := by
  have hall : ∀ code ≤ 122, 97 ≤ code → (Char.ofNat code).toUpper.isUpper = true := by decide
  have hbounds : (decide ('a'.val ≤ c.val) && decide (c.val ≤ 'z'.val)) = true := h
  have hrange : 97 ≤ c.toNat ∧ c.toNat ≤ 122 := by
    simpa [UInt32.le_iff_toNat_le] using hbounds
  rw [← Char.ofNat_toNat c]
  exact hall c.toNat hrange.2 hrange.1

/-- A capital is not among characters that are none. -/
theorem contains_eq_false_of_isUpper {chars : List Char} (hchars : chars.any Char.isUpper = false)
    {c : Char} (h : c.isUpper = true) : chars.contains c = false := by
  rw [Bool.eq_false_iff]
  intro hmem
  exact List.any_eq_false.mp hchars c (List.contains_iff_mem.mp hmem) h

theorem forall_mem_trimUnderscores {name : String} (h : ∀ c ∈ name.toList, Allowed c) :
    ∀ c ∈ (trimUnderscores name).toList, Allowed c := by
  intro c hc
  rw [trimUnderscores, String.toList_ofList, List.mem_reverse] at hc
  have htail := List.dropWhile_subset _ hc
  exact h c (List.dropWhile_subset _ (List.mem_reverse.mp htail))

theorem forall_mem_lowerCamelChars (hupper : ∀ c : Char, c.isUpper = true → Allowed c)
    {chars : List Char} (h : ∀ c ∈ chars, Allowed c) : ∀ c ∈ lowerCamelChars chars, Allowed c := by
  fun_induction lowerCamelChars chars with
  | case1 c rest hlower ih =>
      have hcapital : Allowed c.toUpper := hupper _ (isUpper_toUpper hlower)
      simp_all
  | case2 c rest hlower ih => simp_all
  | case3 c rest _ ih => simp_all
  | case4 => simp

theorem forall_mem_styledName (hunderscore : Allowed '_')
    (hupper : ∀ c : Char, c.isUpper = true → Allowed c) (dialect : Dialect) {name : String}
    (h : ∀ c ∈ name.toList, Allowed c) : ∀ c ∈ (dialect.styledName name).toList, Allowed c := by
  have htrimmed := forall_mem_trimUnderscores h
  rw [Dialect.styledName.eq_def]
  dsimp only
  split
  · simpa [or_imp, forall_and] using ⟨htrimmed, hunderscore⟩
  · cases dialect with
    | cpp => exact htrimmed
    | typeScript typed =>
        simpa [lowerCamel] using forall_mem_lowerCamelChars hupper htrimmed

/-! ### Strings and numbers -/

theorem mem_of_all_contains {allowed chars : List Char} (h : chars.all allowed.contains = true)
    {c : Char} (hc : c ∈ chars) : c ∈ allowed :=
  List.contains_iff_mem.mp (List.all_eq_true.mp h c hc)

def escapeCharacters : List Char := "\"\\nrtbfu0123456789abcdef".toList

theorem lowerHex_all_escapeCharacters :
    ∀ code < 0x20, (lowerHex 4 code).all escapeCharacters.contains = true := by decide

theorem mem_jsonEscape {c d : Char} (h : d ∈ jsonEscape c) : d = c ∨ d ∈ escapeCharacters := by
  rw [jsonEscape.eq_def] at h
  split at h
  case h_8 =>
    split at h
    · next hcontrol =>
        rcases List.mem_cons.mp h with rfl | h
        · exact .inr (by decide)
        · rcases List.mem_cons.mp h with rfl | hdigit
          · exact .inr (by decide)
          · exact .inr (mem_of_all_contains (lowerHex_all_escapeCharacters _ hcontrol) hdigit)
    · exact .inl (List.mem_singleton.mp h)
  all_goals exact .inr (mem_of_all_contains (by decide) h)

theorem forall_mem_jsonString (hescape : ∀ c ∈ escapeCharacters, Allowed c) {text : String}
    (h : ∀ c ∈ text.toList, Allowed c) : ∀ c ∈ (jsonString text).toList, Allowed c := by
  intro c hc
  have hquote : Allowed '"' := hescape _ (by decide)
  rw [jsonString, String.toList_ofList, enclose, List.mem_cons, List.mem_append,
    List.mem_singleton, List.mem_flatMap] at hc
  rcases hc with rfl | ⟨source, hsource, hc⟩ | rfl
  · exact hquote
  · rcases mem_jsonEscape hc with rfl | hfixed
    · exact h c hsource
    · exact hescape c hfixed
  · exact hquote

def numeralCharacters : List Char := "0123456789.e+-infa".toList

theorem mem_numeralCharacters_of_isDigit {c : Char} (h : c.isDigit = true) :
    c ∈ numeralCharacters := by
  have hall : ∀ code ≤ 57, 48 ≤ code → Char.ofNat code ∈ numeralCharacters := by decide
  have hrange : 48 ≤ c.toNat ∧ c.toNat ≤ 57 := by
    simpa [Char.isDigit, UInt32.le_iff_toNat_le] using h
  rw [← Char.ofNat_toNat c]
  exact hall c.toNat hrange.2 hrange.1

theorem mem_numeralCharacters_of_toDigits {n : Nat} {c : Char} (h : c ∈ Nat.toDigits 10 n) :
    c ∈ numeralCharacters :=
  mem_numeralCharacters_of_isDigit (Nat.isDigit_of_mem_toDigits (by decide) (by decide) h)

theorem mem_int (value : Int) : ∀ c ∈ (toString value).toList, c ∈ numeralCharacters := by
  intro c hc
  cases value with
  | ofNat n =>
      rw [show toString (Int.ofNat n) = Nat.repr n from rfl, Nat.toList_repr] at hc
      exact mem_numeralCharacters_of_toDigits hc
  | negSucc n =>
      rw [show toString (Int.negSucc n) = "-" ++ Nat.repr (n + 1) from rfl, String.toList_append,
        Nat.toList_repr, List.mem_append] at hc
      rcases hc with hsign | hdigit
      · exact mem_of_all_contains (by decide) hsign
      · exact mem_numeralCharacters_of_toDigits hdigit

theorem mem_zeros {count : Nat} {c : Char} (h : c ∈ zeros count) : c ∈ numeralCharacters := by
  obtain rfl := List.eq_of_mem_replicate h
  decide

theorem mem_positional {digits : List Char} (h : ∀ c ∈ digits, c ∈ numeralCharacters)
    (point : Int) :
    ∀ c ∈ positional digits point, c ∈ numeralCharacters := by
  have hzero : '0' ∈ numeralCharacters := by decide
  have hpoint : '.' ∈ numeralCharacters := by decide
  rw [positional]
  split
  · refine List.forall_mem_cons.mpr ⟨hzero, List.forall_mem_cons.mpr ⟨hpoint, ?_⟩⟩
    exact List.forall_mem_append.mpr ⟨fun c => mem_zeros, h⟩
  · have hwhole : ∀ c ∈ digits.take point.toNat ++ zeros (point.toNat - digits.length),
        c ∈ numeralCharacters :=
      List.forall_mem_append.mpr ⟨fun c hc => h c (List.mem_of_mem_take hc), fun c => mem_zeros⟩
    refine List.forall_mem_append.mpr ⟨hwhole, List.forall_mem_cons.mpr ⟨hpoint, ?_⟩⟩
    split
    · simpa using hzero
    · exact fun c hc => h c (List.mem_of_mem_drop hc)

theorem mem_exponential {digits : List Char} (h : ∀ c ∈ digits, c ∈ numeralCharacters)
    (style : NumeralStyle) (point : Int) :
    ∀ c ∈ exponential style digits point, c ∈ numeralCharacters := by
  have hpoint : '.' ∈ numeralCharacters := by decide
  have hexponent : 'e' ∈ numeralCharacters := by decide
  have hminus : '-' ∈ numeralCharacters := by decide
  have hplus : '+' ∈ numeralCharacters := by decide
  rw [exponential]
  refine List.forall_mem_append.mpr ⟨List.forall_mem_append.mpr ⟨?_, ?_⟩,
    List.forall_mem_cons.mpr ⟨hexponent, List.forall_mem_append.mpr
      ⟨List.forall_mem_append.mpr ⟨?_, fun c => mem_zeros⟩, ?_⟩⟩⟩
  · exact fun c hc => h c (List.mem_of_mem_take hc)
  · split
    · simp
    · exact List.forall_mem_cons.mpr ⟨hpoint, fun c hc => h c (List.mem_of_mem_drop hc)⟩
  · split
    · simpa using hminus
    · split
      · simpa using hplus
      · simp
  · exact fun c => mem_numeralCharacters_of_toDigits

theorem mem_decimal (style : NumeralStyle) (decimal : Decimal) :
    ∀ c ∈ decimal.text style, c ∈ numeralCharacters := by
  have hdigits : ∀ c ∈ ((Nat.toDigits 10 decimal.digits).reverse.dropWhile (· == '0')).reverse,
      c ∈ numeralCharacters := by
    intro c hc
    have hwritten := List.dropWhile_subset _ (List.mem_reverse.mp hc)
    exact mem_numeralCharacters_of_toDigits (List.mem_reverse.mp hwritten)
  rw [Decimal.text]
  split
  · exact mem_positional hdigits _
  · exact mem_exponential hdigits style _

theorem mem_double (value : Double) : ∀ c ∈ (value.text .code).toList, c ∈ numeralCharacters := by
  rw [Double.text]
  split
  · exact fun c => mem_of_all_contains (by decide)
  · split <;> exact fun c => mem_of_all_contains (by decide)
  · next negative mantissa exponent _ =>
      have hdigits : ∀ c ∈ (if mantissa = 0 then ['0', '.', '0']
          else (shortestDecimal mantissa exponent).text .code), c ∈ numeralCharacters := by
        split
        · exact fun c => mem_of_all_contains (by decide)
        · exact mem_decimal .code _
      rw [String.toList_ofList]
      split
      · exact List.forall_mem_cons.mpr ⟨by decide, hdigits⟩
      · exact hdigits

/-! ### Comments -/

theorem mem_of_mem_splitLines {text line : List Char} (h : line ∈ splitLines text) :
    ∀ c ∈ line, c ∈ text := by
  fun_induction splitLines text generalizing line with
  | case1 => simp_all
  | case2 rest ih => grind
  | case3 c rest hc heq ih => exact absurd heq (splitLines_ne_nil rest)
  | case4 c rest hc first lines heq ih => grind

theorem mem_of_mem_dropOuterEmpty {lines : List (List Char)} {line : List Char}
    (h : line ∈ dropOuterEmpty lines) : line ∈ lines := by
  rw [dropOuterEmpty, List.mem_reverse] at h
  have htail := List.dropWhile_subset _ h
  exact List.dropWhile_subset _ (List.mem_reverse.mp htail)

/-- A line of a cleaned text is cut from a line of the text. -/
theorem exists_mem_splitLines_of_mem_cleanDoc {text line : String} (h : line ∈ cleanDoc text) :
    ∃ source ∈ splitLines text.toList, ∀ c ∈ line.toList, c ∈ source := by
  obtain ⟨chars, hchars, rfl⟩ := List.mem_map.mp h
  simp only [String.toList_ofList]
  rw [docLines] at hchars
  cases hsplit : splitLines text.toList with
  | nil => simp [hsplit] at hchars
  | cons first rest =>
      rw [hsplit] at hchars
      rcases List.mem_cons.mp (mem_of_mem_dropOuterEmpty hchars) with rfl | hrest
      · exact ⟨first, List.mem_cons_self, fun c hc => List.dropWhile_subset _ hc⟩
      · obtain ⟨source, hsource, rfl⟩ := List.mem_map.mp hrest
        exact ⟨source, List.mem_cons_of_mem _ hsource, fun c hc => List.mem_of_mem_drop hc⟩

theorem mem_of_mem_cleanDoc {text line : String} (h : line ∈ cleanDoc text) :
    ∀ c ∈ line.toList, c ∈ text.toList := by
  obtain ⟨source, hsource, hmem⟩ := exists_mem_splitLines_of_mem_cleanDoc h
  exact fun c hc => mem_of_mem_splitLines hsource c (hmem c hc)

theorem newline_not_mem_of_mem_cleanDoc {text line : String} (h : line ∈ cleanDoc text) :
    '\n' ∉ line.toList := by
  obtain ⟨source, hsource, hmem⟩ := exists_mem_splitLines_of_mem_cleanDoc h
  exact fun hnewline => newline_not_mem_of_mem_splitLines hsource (hmem _ hnewline)

theorem mem_of_mem_documentation {text : String} :
    ∀ c ∈ (documentation text).toList, c ∈ text.toList := by
  intro c hc
  rw [documentation] at hc
  split at hc
  · next rest htext =>
      rw [String.toList_ofList] at hc
      rw [htext]
      exact List.mem_cons_of_mem _ hc
  · exact hc

end Snippet
