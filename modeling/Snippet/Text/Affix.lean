namespace Snippet.Text

/-- What follows a text that starts with the given one. -/
def rest? : List Char → List Char → Option (List Char)
  | [], text => some text
  | _ :: _, [] => none
  | first :: start, c :: text => if first = c then rest? start text else none

theorem rest?_eq_some_iff {start text rest : List Char} :
    rest? start text = some rest ↔ text = start ++ rest := by
  fun_induction rest? start text <;> simp_all [eq_comm]

/-- A text without its last character, when that is the given one. -/
def init? (last : Char) (text : List Char) : Option (List Char) :=
  if text.getLast? = some last then some text.dropLast else none

/-- The text between the parentheses that follow a name and end the text. -/
def argumentsOf? (name text : List Char) : Option (List Char) :=
  (rest? (name ++ ['(']) text).bind (init? ')')

end Snippet.Text
