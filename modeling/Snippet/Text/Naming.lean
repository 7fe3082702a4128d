import Snippet.Text.Uppercase

namespace Snippet.Text

def dropUnderscores (name : List Char) : List Char := name.dropWhile (· == '_')

def trimUnderscores (name : String) : String :=
  String.ofList (dropUnderscores (dropUnderscores name.toList).reverse).reverse

/-- Folds every underscore that a lower-case ASCII letter follows into the capital letter. -/
def lowerCamelChars : List Char → List Char
  | '_' :: c :: rest =>
    if c.isLower then c.toUpper :: lowerCamelChars rest else '_' :: lowerCamelChars (c :: rest)
  | c :: rest => c :: lowerCamelChars rest
  | [] => []

theorem dropUnderscores_of_head?_ne {chars : List Char} (h : chars.head? ≠ some '_') :
    dropUnderscores chars = chars := by
  cases chars with
  | nil => rfl
  | cons c rest =>
      have hc : c ≠ '_' := by simpa using h
      simp [dropUnderscores, hc]

theorem trimUnderscores_eq_self {name : String} (hhead : name.toList.head? ≠ some '_')
    (hlast : name.toList.getLast? ≠ some '_') : trimUnderscores name = name := by
  have hreverse : name.toList.reverse.head? ≠ some '_' := by
    rwa [List.head?_reverse]
  rw [trimUnderscores, dropUnderscores_of_head?_ne hhead, dropUnderscores_of_head?_ne hreverse,
    List.reverse_reverse, String.ofList_toList]

theorem lowerCamelChars_cons {c : Char} (h : c ≠ '_') (rest : List Char) :
    lowerCamelChars (c :: rest) = c :: lowerCamelChars rest := by
  rw [lowerCamelChars.eq_def]
  split
  · next heq => exact absurd (List.cons.inj heq).1 h
  · next heq =>
      obtain ⟨rfl, rfl⟩ := List.cons.inj heq
      rfl
  · next heq => cases heq

theorem lowerCamelChars_ne_nil {chars : List Char} (h : chars ≠ []) : lowerCamelChars chars ≠ [] := by
  rw [lowerCamelChars.eq_def]
  split
  · split <;> exact List.cons_ne_nil _ _
  · exact List.cons_ne_nil _ _
  · exact absurd rfl h

/-- A name in lower camel case: `add_vertex` becomes `addVertex`. -/
def lowerCamel (name : String) : String := String.ofList (lowerCamelChars name.toList)

def capitalizeChars : List Char → List Char
  | [] => []
  | c :: rest => capital c ++ rest

/-- A name as words: `add_vertex` becomes `add vertex`, or `Add vertex` when capitalised. -/
def sentence (name : String) (capitalized : Bool) : String :=
  let words := name.toList.map fun c => if c = '_' then ' ' else c
  String.ofList (if capitalized then capitalizeChars words else words)

/-- The parts of a name before and after its last underscore. -/
def splitAtLastUnderscore (name : String) : Option (String × String) :=
  let tail := name.toList.reverse.takeWhile (· != '_')
  match name.toList.reverse.dropWhile (· != '_') with
  | [] => none
  | _ :: head => some (String.ofList head.reverse, String.ofList tail.reverse)

end Snippet.Text
