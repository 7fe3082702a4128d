import Mathlib
import Snippet.Proofs.Identifiers

/-!
# Names settle in one step

Styling takes underscores out of a name and changes the case of its letters, and it does nothing else.
Folding leaves no underscore that could be folded. It leaves the ends of a name alone, so what is
styled is a name with bare ends, or a keyword with the one underscore that tells it from the keyword.
Trimming takes that underscore off again, which is why a styled name is styled as it is.
-/

namespace Snippet

open Text

/-! ### What styling keeps and what it leaves behind -/

namespace Text

/-- The characters of a name but for underscores, with no difference between capitals and small
letters. -/
def letters (name : String) : List Char :=
  (name.toList.filter (· != '_')).map Char.toLower

/-- No underscore has a lower-case letter right behind it. -/
def Folded (chars : List Char) : Prop :=
  chars.IsChain fun c next => c = '_' → next.isLower = false

/-- There is no underscore at either end. -/
structure BareEnds (chars : List Char) : Prop where
  head : chars.head? ≠ some '_'
  last : chars.getLast? ≠ some '_'

end Text

/-! ### Folding -/

theorem ne_underscore_of_isLower {c : Char} (h : c.isLower = true) : c ≠ '_' := by
  rintro rfl
  cases h

theorem toUpper_ne_underscore {c : Char} (h : c.isLower = true) : c.toUpper ≠ '_' := by
  intro heq
  have hupper := isUpper_toUpper h
  rw [heq] at hupper
  cases hupper

/-- Folding puts no lower-case letter in front. -/
theorem isLower_of_mem_head?_lowerCamelChars {chars : List Char}
    (h : ∀ c ∈ chars.head?, c.isLower = false) :
    ∀ c ∈ (lowerCamelChars chars).head?, c.isLower = false := by
  fun_cases lowerCamelChars chars with
  | case1 c rest hlower => simp
  | case2 c rest hlower => simp
  | case3 c rest hne => simpa using h
  | case4 => simp

theorem folded_lowerCamelChars (chars : List Char) : Folded (lowerCamelChars chars) := by
  fun_induction lowerCamelChars chars with
  | case1 c rest hlower ih =>
      exact List.isChain_cons.mpr ⟨fun _ _ heq => absurd heq (toUpper_ne_underscore hlower), ih⟩
  | case2 c rest hlower ih =>
      have hhead : ∀ next ∈ (lowerCamelChars (c :: rest)).head?, next.isLower = false :=
        isLower_of_mem_head?_lowerCamelChars (by simpa using hlower)
      exact List.isChain_cons.mpr ⟨fun next hnext _ => hhead next hnext, ih⟩
  | case3 c rest hne ih =>
      refine List.isChain_cons.mpr ⟨fun next hnext heq => ?_, ih⟩
      -- An underscore that is kept in this case is the last character.
      cases rest with
      | nil => cases hnext
      | cons second rest => exact absurd rfl (hne second rest heq)
  | case4 => exact List.isChain_nil

theorem lowerCamelChars_of_folded {chars : List Char} (h : Folded chars) :
    lowerCamelChars chars = chars := by
  fun_induction lowerCamelChars chars with
  | case1 c rest hlower ih =>
      have hnext := (List.isChain_cons_cons.mp h).1 rfl
      cases hlower.symm.trans hnext
  | case2 c rest hlower ih => rw [ih (List.isChain_cons_cons.mp h).2]
  | case3 c rest hne ih => rw [ih (List.isChain_cons.mp h).2]
  | case4 => rfl

theorem lowerCamel_lowerCamel (name : String) : lowerCamel (lowerCamel name) = lowerCamel name := by
  have hfolded : Folded (lowerCamel name).toList := by
    rw [lowerCamel, String.toList_ofList]
    exact folded_lowerCamelChars name.toList
  rw [lowerCamel.eq_def (lowerCamel name), lowerCamelChars_of_folded hfolded, String.ofList_toList]

theorem letters_lowerCamel (name : String) : letters (lowerCamel name) = letters name := by
  rw [letters, lowerCamel, String.toList_ofList, letters]
  induction name.toList using lowerCamelChars.induct with
  | case1 c rest hlower ih =>
      rw [lowerCamelChars, if_pos hlower]
      simp [toUpper_ne_underscore hlower, ne_underscore_of_isLower hlower, ih]
  | case2 c rest hlower ih =>
      rw [lowerCamelChars, if_neg hlower]
      simpa using ih
  | case3 c rest hne ih =>
      rw [lowerCamelChars]
      · by_cases hc : c = '_'
        · simpa [hc] using ih
        · simpa [hc] using ih
      · exact hne
  | case4 => rfl

/-! ### Ends -/

theorem head?_dropUnderscores_ne (chars : List Char) : (dropUnderscores chars).head? ≠ some '_' := by
  intro h
  obtain ⟨rest, heq⟩ := List.head?_eq_some_iff.mp h
  exact head_dropUnderscores_ne heq rfl

theorem bareEnds_trimUnderscores (name : String) : BareEnds (trimUnderscores name).toList := by
  constructor
  · cases hleft : dropUnderscores name.toList with
    | nil =>
        rw [trimUnderscores_eq_empty hleft]
        simp
    | cons first rest =>
        obtain ⟨others, htrimmed⟩ := exists_trimUnderscores_eq hleft
        rw [htrimmed]
        simpa using head_dropUnderscores_ne hleft
  · rw [trimUnderscores, String.toList_ofList, List.getLast?_reverse]
    exact head?_dropUnderscores_ne _

theorem getLast?_cons_ne {c : Char} {rest : List Char} (h : (c :: rest).getLast? ≠ some '_') :
    rest.getLast? ≠ some '_' :=
  fun heq => h (by rw [List.getLast?_cons, heq]; rfl)

theorem getLast?_lowerCamelChars_ne {chars : List Char} (h : chars.getLast? ≠ some '_') :
    (lowerCamelChars chars).getLast? ≠ some '_' := by
  -- The last character stays the last, perhaps as a capital.
  have hcons {c : Char} {folded : List Char} (hlast : folded.getLast? ≠ some '_')
      (hc : folded = [] → c ≠ '_') : (c :: folded).getLast? ≠ some '_' := by
    cases folded with
    | nil => simpa using hc rfl
    | cons second rest => rwa [List.getLast?_cons_cons]
  fun_induction lowerCamelChars chars with
  | case1 c rest hlower ih =>
      exact hcons (ih (getLast?_cons_ne (getLast?_cons_ne h))) fun _ => toUpper_ne_underscore hlower
  | case2 c rest hlower ih =>
      exact hcons (ih (getLast?_cons_ne h)) fun hempty =>
        absurd hempty (lowerCamelChars_ne_nil (List.cons_ne_nil c rest))
  | case3 c rest hne ih =>
      refine hcons (ih (getLast?_cons_ne h)) fun hempty heq => h ?_
      obtain rfl : rest = [] := not_not.mp fun hrest => lowerCamelChars_ne_nil hrest hempty
      rw [heq]
      rfl
  | case4 => exact h

theorem bareEnds_lowerCamelChars {chars : List Char} (h : BareEnds chars) :
    BareEnds (lowerCamelChars chars) := by
  refine ⟨?_, getLast?_lowerCamelChars_ne h.last⟩
  cases chars with
  | nil => exact h.head
  | cons c rest =>
      have hc : c ≠ '_' := by simpa using h.head
      rw [lowerCamelChars_cons hc]
      exact h.head

theorem filter_dropUnderscores (chars : List Char) :
    (dropUnderscores chars).filter (· != '_') = chars.filter (· != '_') := by
  induction chars with
  | nil => rfl
  | cons c rest ih =>
      by_cases hc : c = '_'
      · simpa [dropUnderscores, hc] using ih
      · simp [dropUnderscores, hc]

theorem letters_trimUnderscores (name : String) : letters (trimUnderscores name) = letters name := by
  rw [letters, trimUnderscores, String.toList_ofList, List.filter_reverse, filter_dropUnderscores,
    List.filter_reverse, List.reverse_reverse, filter_dropUnderscores, letters]

/-! ### Styled names -/

/-- What a dialect makes of a name without underscores at its ends. -/
def Dialect.folded (dialect : Dialect) (name : String) : String :=
  match dialect with
  | cpp => name
  | typeScript _ => lowerCamel name

theorem Dialect.folded_of_mem_keywords {dialect : Dialect} {word : String}
    (h : word ∈ dialect.keywords) : dialect.folded word = word := by
  cases dialect with
  | cpp => rfl
  | typeScript typed =>
      obtain rfl : word = "in" := by simpa [Dialect.keywords] using h
      rfl

theorem trimUnderscores_append_of_mem_keywords {dialect : Dialect} {word : String}
    (h : word ∈ dialect.keywords) : trimUnderscores (word ++ "_") = word := by
  cases dialect with
  | cpp =>
      obtain rfl : word = "or" := by simpa [Dialect.keywords] using h
      rfl
  | typeScript typed =>
      obtain rfl : word = "in" := by simpa [Dialect.keywords] using h
      rfl

/-- Folding makes no keyword of a name that is none, so the keyword can be told last. -/
theorem styledName_eq (dialect : Dialect) (name : String) :
    dialect.styledName name =
      if dialect.folded (trimUnderscores name) ∈ dialect.keywords then
        dialect.folded (trimUnderscores name) ++ "_"
      else dialect.folded (trimUnderscores name) := by
  by_cases hkeyword : trimUnderscores name ∈ dialect.keywords
  · rw [Dialect.folded_of_mem_keywords hkeyword, if_pos hkeyword, Dialect.styledName.eq_def]
    simp [hkeyword]
  · have hstyled : dialect.styledName name = dialect.folded (trimUnderscores name) := by
      rw [Dialect.styledName.eq_def]
      simp only [List.contains_eq_mem, hkeyword, decide_false, Bool.false_eq_true, if_false]
      cases dialect <;> rfl
    rw [if_neg (hstyled ▸ styledName_not_mem_keywords dialect name), hstyled]

theorem bareEnds_folded (dialect : Dialect) {name : String} (h : BareEnds name.toList) :
    BareEnds (dialect.folded name).toList := by
  cases dialect with
  | cpp => exact h
  | typeScript typed =>
      rw [Dialect.folded, lowerCamel, String.toList_ofList]
      exact bareEnds_lowerCamelChars h

theorem folded_folded (dialect : Dialect) (name : String) :
    dialect.folded (dialect.folded name) = dialect.folded name := by
  cases dialect with
  | cpp => rfl
  | typeScript typed => exact lowerCamel_lowerCamel name

theorem letters_folded (dialect : Dialect) (name : String) :
    letters (dialect.folded name) = letters name := by
  cases dialect with
  | cpp => rfl
  | typeScript typed => exact letters_lowerCamel name

theorem styledName_styledName (dialect : Dialect) (name : String) :
    dialect.styledName (dialect.styledName name) = dialect.styledName name := by
  have hbare := bareEnds_folded dialect (bareEnds_trimUnderscores name)
  have htrimmed : trimUnderscores (dialect.styledName name) =
      dialect.folded (trimUnderscores name) := by
    rw [styledName_eq]
    split
    · next hkeyword => exact trimUnderscores_append_of_mem_keywords hkeyword
    · exact trimUnderscores_eq_self hbare.head hbare.last
  rw [styledName_eq dialect (dialect.styledName name), htrimmed, folded_folded, ← styledName_eq]

theorem letters_styledName (dialect : Dialect) (name : String) :
    letters (dialect.styledName name) = letters name := by
  have hcore : letters (dialect.folded (trimUnderscores name)) = letters name := by
    rw [letters_folded, letters_trimUnderscores]
  rw [styledName_eq]
  split
  · rw [← hcore]
    simp [letters]
  · exact hcore

/-! ### The names that styling leaves as they are -/

def Dialect.IsFolded (dialect : Dialect) (name : String) : Prop :=
  match dialect with
  | cpp => True
  | typeScript _ => Folded name.toList

/-- The names that a dialect does not style: there is no underscore to take out and no keyword to
avoid, or the name is a keyword that has its underscore. -/
def Dialect.Keeps (dialect : Dialect) (name : String) : Prop :=
  (∃ word ∈ dialect.keywords, name = word ++ "_") ∨
    name ∉ dialect.keywords ∧ BareEnds name.toList ∧ dialect.IsFolded name

theorem isFolded_folded (dialect : Dialect) (name : String) :
    dialect.IsFolded (dialect.folded name) := by
  cases dialect with
  | cpp => trivial
  | typeScript typed =>
      rw [Dialect.IsFolded, Dialect.folded, lowerCamel, String.toList_ofList]
      exact folded_lowerCamelChars name.toList

theorem Dialect.IsFolded.folded_eq {dialect : Dialect} {name : String} (h : dialect.IsFolded name) :
    dialect.folded name = name := by
  cases dialect with
  | cpp => rfl
  | typeScript typed =>
      rw [Dialect.folded, lowerCamel, lowerCamelChars_of_folded h, String.ofList_toList]

theorem styledName_eq_self_iff (dialect : Dialect) (name : String) :
    dialect.styledName name = name ↔ dialect.Keeps name := by
  rw [styledName_eq]
  constructor
  · intro heq
    split at heq
    · next hkeyword => exact .inl ⟨_, hkeyword, heq.symm⟩
    · next hkeyword =>
        have hbare := bareEnds_folded dialect (bareEnds_trimUnderscores name)
        have hfolded := isFolded_folded dialect (trimUnderscores name)
        rw [heq] at hkeyword hbare hfolded
        exact .inr ⟨hkeyword, hbare, hfolded⟩
  · rintro (⟨word, hword, rfl⟩ | ⟨hkeyword, hbare, hfolded⟩)
    · rw [trimUnderscores_append_of_mem_keywords hword, Dialect.folded_of_mem_keywords hword,
        if_pos hword]
    · rw [trimUnderscores_eq_self hbare.head hbare.last, hfolded.folded_eq, if_neg hkeyword]

/-- A folded name has nothing left to fold, so folding it again changes nothing, and but for
underscores and capitals it is the name. A styled name is styled as it is, is no keyword, has an
underscore at an end only behind a keyword, and but for underscores and capitals it is the name. -/
theorem styling_stable (name : String) :
    (Folded (lowerCamel name).toList ∧ lowerCamel (lowerCamel name) = lowerCamel name ∧
        letters (lowerCamel name) = letters name) ∧
      ∀ dialect : Dialect,
        dialect.styledName (dialect.styledName name) = dialect.styledName name ∧
          dialect.styledName name ∉ dialect.keywords ∧
          (∃ core : String, BareEnds core.toList ∧
            dialect.styledName name = if core ∈ dialect.keywords then core ++ "_" else core) ∧
          letters (dialect.styledName name) = letters name := by
  refine ⟨⟨?_, lowerCamel_lowerCamel name, letters_lowerCamel name⟩, fun dialect => ?_⟩
  · rw [lowerCamel, String.toList_ofList]
    exact folded_lowerCamelChars name.toList
  · exact ⟨styledName_styledName dialect name, styledName_not_mem_keywords dialect name,
      ⟨dialect.folded (trimUnderscores name),
        bareEnds_folded dialect (bareEnds_trimUnderscores name), styledName_eq dialect name⟩,
      letters_styledName dialect name⟩

/-- Capitals stay, a run of underscores loses only its last, and a keyword is told from itself. -/
example :
    lowerCamel "a__b_C" = "a_B_C" ∧ (Dialect.typeScript true).styledName "__set_in_tangent_" =
      "setInTangent" ∧ (Dialect.typeScript true).styledName "_in" = "in_" := by decide +kernel

end Snippet
