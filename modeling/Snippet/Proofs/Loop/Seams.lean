import Mathlib
import Snippet.Proofs.Loop.Lexemes

/-!
# Where texts are put together

A text whose brackets are its own cannot end within brackets that another opens. So where such a
text and a parenthesis start what is put together of a first text and brackets, the parenthesis
stands in the first text or is the bracket itself.
-/

namespace Snippet.Loop

/-- A text and a character that start what is put together of two texts end in the first of them, or
the text covers the first and goes on in the second. -/
theorem cases_of_concat_prefix {α : Type} {text first second : List α} {a : α}
    (h : text ++ [a] <+: first ++ second) :
    text ++ [a] <+: first ∨ ∃ more, text = first ++ more ∧ more ++ [a] <+: second := by
  rcases List.prefix_or_prefix_of_prefix h (List.prefix_append first second) with hshort | hlong
  · exact .inl hshort
  · obtain ⟨later, hlater⟩ := hlong
    rcases List.eq_nil_or_concat later with rfl | ⟨more, b, rfl⟩
    · exact .inl (by simp [← hlater])
    · rw [List.concat_eq_append, ← List.append_assoc] at hlater
      obtain ⟨rfl, hlast⟩ := List.append_inj' hlater rfl
      obtain rfl := List.singleton_inj.mp hlast
      rw [List.append_assoc] at h
      exact .inr ⟨more, rfl, (List.prefix_append_right_inj first).mp h⟩

/-- A character to put below the brackets that are open, which no bracket ends. -/
def ground : Char := '.'

theorem bracket?_frame {front stack : List Char} {c : Char}
    (h : bracket? (front ++ [ground]) c = some stack) :
    ∃ later, stack = later ++ [ground] ∧
      ∀ below, bracket? (front ++ below) c = some (later ++ below) := by
  have hpartner : partner? c ≠ some ground := by
    rw [partner?.eq_def]
    split <;> decide
  by_cases hopening : ['(', '[', '\x7b'].contains c = true
  · simp only [bracket?, hopening, if_true] at h ⊢
    obtain rfl := Option.some.inj h
    exact ⟨c :: front, rfl, fun below => rfl⟩
  · simp only [bracket?, hopening] at h ⊢
    cases hclosing : partner? c with
    | none =>
        simp only [hclosing] at h
        obtain rfl := Option.some.inj h
        exact ⟨front, rfl, fun below => rfl⟩
    | some start =>
        simp only [hclosing] at h
        cases front with
        | nil =>
            obtain ⟨rfl, -⟩ := Option.ite_none_right_eq_some.mp h
            exact absurd hclosing hpartner
        | cons innermost outer =>
            obtain ⟨rfl, hsome⟩ := Option.ite_none_right_eq_some.mp h
            obtain rfl := Option.some.inj hsome
            exact ⟨outer, rfl, fun below => if_pos rfl⟩

theorem Place.read?_frame {front : List Char} {quote : Quote} {c : Char} {next : Place}
    {shown : Bool} (h : (Place.mk (front ++ [ground]) quote).read? c = some (next, shown)) :
    ∃ later after, next = ⟨later ++ [ground], after⟩ ∧
      ∀ below, ∃ other, (Place.mk (front ++ below) quote).read? c =
        some (⟨later ++ below, after⟩, other) := by
  cases quote with
  | escaped =>
      obtain ⟨rfl, rfl⟩ := Prod.mk.inj (Option.some.inj h)
      exact ⟨front, .inside, rfl, fun below => ⟨false, rfl⟩⟩
  | inside =>
      simp only [read?] at h ⊢
      split at h
      · next hquote =>
          obtain ⟨rfl, rfl⟩ := Prod.mk.inj (Option.some.inj h)
          exact ⟨front, .outside, rfl, fun below => ⟨false, if_pos hquote⟩⟩
      · next hquote =>
          split at h
          · next hescape =>
              obtain ⟨rfl, rfl⟩ := Prod.mk.inj (Option.some.inj h)
              exact ⟨front, .escaped, rfl, fun below =>
                ⟨false, (if_neg hquote).trans (if_pos hescape)⟩⟩
          · next hescape =>
              obtain ⟨rfl, rfl⟩ := Prod.mk.inj (Option.some.inj h)
              exact ⟨front, .inside, rfl, fun below =>
                ⟨false, (if_neg hquote).trans (if_neg hescape)⟩⟩
  | outside =>
      simp only [read?] at h ⊢
      split at h
      · next hquote =>
          obtain ⟨rfl, rfl⟩ := Prod.mk.inj (Option.some.inj h)
          exact ⟨front, .inside, rfl, fun below => ⟨false, if_pos hquote⟩⟩
      · next hquote =>
          obtain ⟨stack, hstack, hnext⟩ := Option.map_eq_some_iff.mp h
          obtain ⟨rfl, rfl⟩ := Prod.mk.inj hnext
          obtain ⟨later, rfl, hlater⟩ := bracket?_frame hstack
          exact ⟨later, .outside, rfl, fun below => ⟨_, by rw [if_neg hquote, hlater]; rfl⟩⟩

/-- What can be read above the ground is read alike above anything else. -/
theorem Place.readAll?_frame {text front : List Char} {quote : Quote} {last : Place}
    {marks : List (Char × Bool)}
    (h : (Place.mk (front ++ [ground]) quote).readAll? text = some (last, marks)) :
    ∃ later after, ∀ below, ∃ others,
      (Place.mk (front ++ below) quote).readAll? text = some (⟨later ++ below, after⟩, others) := by
  induction text generalizing front quote marks with
  | nil => exact ⟨front, quote, fun below => ⟨[], rfl⟩⟩
  | cons c rest ih =>
      rw [readAll?] at h
      obtain ⟨⟨next, shown⟩, hread, hnext⟩ := Option.bind_eq_some_iff.mp h
      obtain ⟨⟨reached, others⟩, hrest, hlast⟩ := Option.bind_eq_some_iff.mp hnext
      obtain ⟨rfl, -⟩ := Prod.mk.inj (Option.some.inj hlast)
      obtain ⟨between, after, rfl, hbetween⟩ := read?_frame hread
      obtain ⟨later, final, hlater⟩ := ih hrest
      refine ⟨later, final, fun below => ?_⟩
      obtain ⟨other, hother⟩ := hbetween below
      obtain ⟨more, hmore⟩ := hlater below
      exact ⟨(c, other) :: more, by simp [readAll?, hother, hmore]⟩

/-- A text in brackets is not over before the bracket that ends it. -/
theorem Sealed.not_sealed_of_prefix {inner front : String} (h : Sealed inner) {opening : Char}
    {more : List Char} (hopening : ['(', '[', '\x7b'].contains opening = true)
    (hfront : front.toList = opening :: more) (hmore : more <+: inner.toList) : ¬ Sealed front := by
  intro hsealed
  have hquote : opening ≠ '"' := by
    rintro rfl
    exact absurd hopening (by decide)
  -- What follows the bracket never reaches the ground, so the bracket is open at the end.
  obtain ⟨rest, hrest⟩ := hmore
  have hinner := h ground []
  have hkeeps := hsealed ground []
  rw [Place.Keeps, ← hrest, Place.readAll?_append] at hinner
  rw [Place.Keeps, hfront, Place.readAll?] at hkeeps
  obtain ⟨⟨reached, marks⟩, hread, -⟩ := Option.bind_eq_some_iff.mp hinner
  rw [← List.nil_append [ground]] at hread
  obtain ⟨later, after, hlater⟩ := Place.readAll?_frame hread
  obtain ⟨others, hothers⟩ := hlater [opening, ground]
  rw [List.nil_append] at hothers
  have hopened : bracket? [ground] opening = some [opening, ground] := if_pos hopening
  have hlast : later ++ [opening, ground] = [ground] := by
    simp only [Place.read?, if_neg hquote, hopened, Option.map_some] at hkeeps
    simpa [hothers] using congrArg (Option.map fun read => read.1.stack) hkeeps
  have hlength := congrArg List.length hlast
  simp at hlength

/-- Of a text with brackets at its end, what stands before a parenthesis is in front of the brackets
or is all that stands there. -/
theorem Sealed.cases_of_prefix {text first inner : String} {opening closing : Char}
    (h : Sealed text) (hfirst : Sealed first) (hinner : Sealed inner)
    (hopening : ['(', '[', '\x7b'].contains opening = true) (hclosing : closing ≠ '(')
    (hseam : text.toList ++ ['('] <+: first.toList ++ opening :: (inner.toList ++ [closing])) :
    text.toList ++ ['('] <+: first.toList ∨ text = first ∧ opening = '(' := by
  rcases cases_of_concat_prefix hseam with hshort | ⟨more, hmore, hbeyond⟩
  · exact .inl hshort
  · refine .inr ?_
    have hrest : text = first ++ String.ofList more :=
      String.toList_injective (by simpa using hmore)
    have hsealed : Sealed (String.ofList more) := codeLaw_sealed.cancel hfirst (hrest ▸ h)
    cases more with
    | nil =>
        obtain ⟨hsame, -⟩ := List.cons_prefix_cons.mp hbeyond
        exact ⟨by simpa using hrest, hsame.symm⟩
    | cons c more =>
        obtain ⟨rfl, hinside⟩ := List.cons_prefix_cons.mp hbeyond
        rcases cases_of_concat_prefix hinside with hshort | ⟨later, rfl, hlast⟩
        · exact absurd hsealed (hinner.not_sealed_of_prefix hopening (String.toList_ofList)
            ((List.prefix_append _ _).trans hshort))
        · obtain ⟨rest, hrest⟩ := hlast
          have hlength := congrArg List.length hrest
          obtain rfl : later = [] := List.length_eq_zero_iff.mp (by simp at hlength; omega)
          obtain ⟨hsame, -⟩ := List.cons.inj hrest
          exact absurd hsame.symm hclosing

end Snippet.Loop
