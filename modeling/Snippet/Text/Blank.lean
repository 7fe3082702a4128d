namespace Snippet.Text

/-- The code points with the Unicode property White_Space, as inclusive ranges. -/
def whiteSpaceRanges : List (Nat × Nat) :=
  [(0x09, 0x0D), (0x20, 0x20), (0x85, 0x85), (0xA0, 0xA0), (0x1680, 0x1680), (0x2000, 0x200A),
   (0x2028, 0x2029), (0x202F, 0x202F), (0x205F, 0x205F), (0x3000, 0x3000)]

/-- Membership of a character in a list of inclusive ranges of code points. -/
def inRanges (ranges : List (Nat × Nat)) (c : Char) : Bool :=
  ranges.any fun (first, last) => first ≤ c.toNat && c.toNat ≤ last

def isBlank (c : Char) : Bool := inRanges whiteSpaceRanges c

/-- A line is blank when all its characters are white space, which the empty line satisfies. -/
def isBlankLine (line : List Char) : Bool := line.all isBlank

def dropBlanks (line : List Char) : List Char := line.dropWhile isBlank

/-- The runs of characters between the white space of a text. -/
def words : List Char → List (List Char)
  | [] => []
  | [c] => if isBlank c then [] else [[c]]
  | c :: d :: rest =>
    match isBlank c, isBlank d, words (d :: rest) with
    | true, _, found => found
    | false, false, word :: more => (c :: word) :: more
    | false, _, found => [c] :: found

theorem dropBlanks_eq_nil_iff (line : List Char) : dropBlanks line = [] ↔ isBlankLine line = true := by
  induction line with
  | nil => simp [dropBlanks, isBlankLine]
  | cons c rest ih =>
    cases h : isBlank c <;> simp_all [dropBlanks, isBlankLine, List.dropWhile]

end Snippet.Text
