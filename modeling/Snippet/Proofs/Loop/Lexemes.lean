import Snippet.Proofs.Loop.Reader
import Snippet.Proofs.Outline.Texts

/-!
# Texts that stand outside all brackets

`Shows` says which lexemes a text is read as outside all brackets, whatever follows it that does not
make a sign of its last character. Texts that show lexemes can be put one after another. What stands
in brackets or in a string is hidden, and a sign ends at a blank, as no sign has one.
-/

namespace Snippet.Loop

open Formula (longestSign? longestSign?_eq_none longestSign?_eq_some longestSign?_append extensions)
open Text (jsonString jsonEscape enclose isBlank)

/-! ### Places -/

theorem Place.readAll?_append (place : Place) (first second : List Char) :
    place.readAll? (first ++ second) =
      (place.readAll? first).bind fun between =>
        (between.1.readAll? second).map fun last => (last.1, between.2 ++ last.2) := by
  induction first generalizing place with
  | nil => simp [readAll?]
  | cons c rest ih =>
      simp only [List.cons_append, readAll?, ih]
      cases place.read? c with
      | none => rfl
      | some read =>
          cases hrest : read.1.readAll? rest with
          | none => simp [hrest]
          | some later =>
              cases hsecond : later.1.readAll? second with
              | none => simp [hrest, hsecond]
              | some last => simp [hrest, hsecond]

theorem Place.map_fst_of_readAll? {place last : Place} {text : List Char}
    {marks : List (Char × Bool)} (h : place.readAll? text = some (last, marks)) :
    marks.map Prod.fst = text := by
  induction text generalizing place marks with
  | nil =>
      obtain ⟨rfl, rfl⟩ : place = last ∧ [] = marks := by simpa [readAll?] using h
      rfl
  | cons c rest ih =>
      cases hread : place.read? c with
      | none => simp [readAll?, hread] at h
      | some read =>
          cases hrest : read.1.readAll? rest with
          | none => simp [readAll?, hread, hrest] at h
          | some later =>
              obtain ⟨rfl, rfl⟩ : later.1 = last ∧ (c, read.2) :: later.2 = marks := by
                simpa [readAll?, hread, hrest] using h
              rw [List.map_cons, ih hrest]

/-- A text that is read where it stands without a lasting effect, all of it exposed or all of it
not. -/
def Place.Keeps (place : Place) (exposed : Bool) (text : List Char) : Prop :=
  place.readAll? text = some (place, text.map (·, exposed))

section Keeps

variable {place : Place} {exposed : Bool} {first second text : List Char}

theorem Place.Keeps.append (h₁ : place.Keeps exposed first) (h₂ : place.Keeps exposed second) :
    place.Keeps exposed (first ++ second) := by
  rw [Keeps] at *
  simp [readAll?_append, h₁, h₂]

theorem Place.Keeps.cancel (h₁ : place.Keeps exposed first)
    (h : place.Keeps exposed (first ++ second)) : place.Keeps exposed second := by
  rw [Keeps] at *
  rw [readAll?_append, h₁] at h
  cases hsecond : place.readAll? second with
  | none => simp [hsecond] at h
  | some last => simpa [hsecond, Prod.ext_iff] using h

theorem Place.keeps_of_forall (h : ∀ c ∈ text, place.read? c = some (place, exposed)) :
    place.Keeps exposed text := by
  induction text with
  | nil => rfl
  | cons c rest ih =>
      obtain ⟨hc, hrest⟩ := List.forall_mem_cons.mp h
      have hlater := ih hrest
      rw [Keeps] at *
      simp [readAll?, hc, hlater]

end Keeps

/-! ### Hidden texts -/

/-- A text in brackets leaves the brackets around it as they are. -/
def Sealed (text : String) : Prop :=
  ∀ innermost outer, (Place.mk (innermost :: outer) .outside).Keeps false text.toList

/-- A text no character of which is exposed, wherever it stands. -/
def Hidden (text : String) : Prop := ∀ stack, (Place.mk stack .outside).Keeps false text.toList

theorem Hidden.sealed {text : String} (h : Hidden text) : Sealed text :=
  fun innermost outer => h (innermost :: outer)

/-- A text between a bracket and its partner. -/
theorem Sealed.enclosed {text start stop : String} (h : Sealed text)
    (henclosed : ∀ stack, ∃ innermost,
      (Place.mk stack .outside).readAll? start.toList =
          some (⟨innermost :: stack, .outside⟩, start.toList.map (·, false)) ∧
        (Place.mk (innermost :: stack) .outside).readAll? stop.toList =
          some (⟨stack, .outside⟩, stop.toList.map (·, false))) :
    Hidden (start ++ text ++ stop) := by
  intro stack
  obtain ⟨innermost, hstart, hstop⟩ := henclosed stack
  have hinner := h innermost stack
  rw [Place.Keeps] at *
  simp [Place.readAll?_append, hstart, hinner, hstop]

theorem Sealed.hidden_group {text : String} (h : Sealed text) : Hidden ("(" ++ text ++ ")") :=
  h.enclosed fun stack => ⟨'(', by simp [Place.readAll?, Place.read?, bracket?, partner?]⟩

theorem Sealed.hidden_index {text : String} (h : Sealed text) : Hidden ("[" ++ text ++ "]") :=
  h.enclosed fun stack => ⟨'[', by simp [Place.readAll?, Place.read?, bracket?, partner?]⟩

theorem Sealed.hidden_braces {text : String} (h : Sealed text) :
    Hidden ("\x7b" ++ text ++ "\x7d") :=
  h.enclosed fun stack => ⟨'\x7b', by simp [Place.readAll?, Place.read?, bracket?, partner?]⟩

/-- Characters that are neither brackets nor open a string. -/
def isInert (c : Char) : Bool := !isBracket c && c != '"'

theorem sealed_of_isInert {text : String} (h : text.toList.all isInert = true) : Sealed text := by
  intro innermost outer
  refine Place.keeps_of_forall fun c hc => ?_
  obtain ⟨hbracket, hquote⟩ : isBracket c = false ∧ c ≠ '"' := by
    simpa [isInert] using List.all_eq_true.mp h c hc
  simp [Place.read?, hquote, bracket?_of_isBracket_eq_false hbracket]

theorem codeLaw_sealed : CodeLaw Sealed where
  plain h := sealed_of_isInert <| List.all_eq_true.mpr fun c hc => by
    have hplain := List.all_eq_true.mp h c hc
    simp_all [isPlain, isInert, isBracket]
  append h₁ h₂ innermost outer := by
    simpa using (h₁ innermost outer).append (h₂ innermost outer)
  cancel h₁ h innermost outer := by
    refine (h₁ innermost outer).cancel ?_
    simpa using h innermost outer
  group h := h.hidden_group.sealed
  index h := h.hidden_index.sealed
  braces h := h.hidden_braces.sealed

theorem hidden_jsonString (text : String) : Hidden (jsonString text) := by
  intro stack
  have hhex : ∀ code < 0x20,
      (Text.lowerHex 4 code).all (fun c => c != '"' && c != '\\') = true := by decide
  have hplain : ∀ c, c ≠ '"' → c ≠ '\\' →
      (Place.mk stack .inside).read? c = some (⟨stack, .inside⟩, false) := by
    intro c hquote hescape
    simp [Place.read?, hquote, hescape]
  have hescape : ∀ c, (Place.mk stack .inside).Keeps false (jsonEscape c) := by
    intro c
    unfold jsonEscape
    split
    case h_8 hquote hbackslash _ _ _ _ _ =>
      split
      · next hcontrol =>
          have hdigits : (Place.mk stack .inside).Keeps false (Text.lowerHex 4 c.toNat) :=
            Place.keeps_of_forall fun d hd => by
              have hdigit := List.all_eq_true.mp (hhex _ hcontrol) d hd
              rw [Bool.and_eq_true, bne_iff_ne, bne_iff_ne] at hdigit
              exact hplain d hdigit.1 hdigit.2
          have hmark : (Place.mk stack .inside).Keeps false ['\\', 'u'] := rfl
          exact hmark.append hdigits
      · refine Place.keeps_of_forall fun d hd => ?_
        obtain rfl := List.mem_singleton.mp hd
        exact hplain d hquote hbackslash
    all_goals rfl
  have hinner : (Place.mk stack .inside).Keeps false (text.toList.flatMap jsonEscape) := by
    induction text.toList with
    | nil => rfl
    | cons c rest ih => exact (hescape c).append ih
  rw [Place.Keeps] at *
  rw [jsonString, String.toList_ofList, enclose, Place.readAll?]
  simp [Place.read?, Place.readAll?_append, hinner, Place.readAll?]

/-! ### Signs -/

/-- No sign starts with the character, or only ones that go on with an equals or a greater sign. -/
def isMild (c : Char) : Bool := isInert c && !("=<>?:;,|^&".toList.contains c)

/-- A character that makes no sign of a mild character before it. -/
def isHarmless (c : Char) : Bool := c != '=' && c != '>'

theorem isHarmless_of_isMild {c : Char} (h : isMild c = true) : isHarmless c = true := by
  simp_all [isMild, isHarmless]

theorem signs_of_isMild : signs.all (fun sign =>
    match sign.toList with
    | [] => false
    | [c] => !isMild c && c != ' '
    | c :: next :: _ => (!isMild c || !isHarmless next) && c != ' ') = true := by decide

theorem blank_not_mem_signs : ∀ sign ∈ signs, ' ' ∉ sign.toList := by decide

theorem longestSign?_of_isMild {c : Char} {text : List Char} (hc : isMild c = true)
    (h : ∀ next ∈ text.head?, isHarmless next = true) : longestSign? signs (c :: text) = none := by
  cases hlongest : longestSign? signs (c :: text) with
  | none => rfl
  | some best =>
      obtain ⟨hmem, hprefix, -⟩ := longestSign?_eq_some hlongest
      have hbest := List.all_eq_true.mp signs_of_isMild best hmem
      cases hchars : best.toList with
      | nil => simp [hchars] at hbest
      | cons first more =>
          rw [hchars] at hprefix hbest
          obtain ⟨rfl, hmore⟩ := List.cons_prefix_cons.mp hprefix
          cases more with
          | nil => simp [hc] at hbest
          | cons next others =>
              obtain ⟨later, rfl⟩ := hmore
              simp [hc, h next rfl] at hbest

theorem longestSign?_nil : longestSign? signs [] = none := by decide

/-- No sign goes on beyond a blank. -/
theorem longestSign?_append_blank {table : List String} (h : ∀ sign ∈ table, ' ' ∉ sign.toList)
    (text later : List Char) :
    longestSign? table (text ++ ' ' :: later) = longestSign? table text := by
  have hstarts : ∀ {sign : List Char}, ' ' ∉ sign →
      (sign <+: text ++ ' ' :: later ↔ sign <+: text) := by
    intro sign hsign
    refine ⟨fun hlong => ?_, fun hshort => hshort.trans (List.prefix_append _ _)⟩
    rcases List.prefix_or_prefix_of_prefix hlong (List.prefix_append _ _) with hshort | hbeyond
    · exact hshort
    · obtain ⟨more, rfl⟩ := hbeyond
      rw [List.prefix_append_right_inj] at hlong
      cases more with
      | nil => simp
      | cons c more =>
          obtain ⟨rfl, -⟩ := List.cons_prefix_cons.mp hlong
          simp at hsign
  induction table with
  | nil => rfl
  | cons sign others ih =>
      obtain ⟨hsign, hothers⟩ := List.forall_mem_cons.mp h
      rw [longestSign?, longestSign?, ih hothers]
      simp only [hstarts hsign]

/-! ### Lexemes -/

theorem exposedFront_cons (c : Char) (marks : List (Char × Bool)) :
    exposedFront ((c, true) :: marks) = c :: exposedFront marks := rfl

theorem exposedFront_cons_hidden (c : Char) (marks : List (Char × Bool)) :
    exposedFront ((c, false) :: marks) = [] := rfl

theorem mem_head?_of_mem_head?_exposedFront {marks : List (Char × Bool)} {c : Char}
    (h : c ∈ (exposedFront marks).head?) : (c, true) ∈ marks.head? := by
  cases marks with
  | nil => simp [exposedFront] at h
  | cons mark rest =>
      obtain ⟨d, exposed⟩ := mark
      cases exposed with
      | false => simp [exposedFront_cons_hidden] at h
      | true => simpa [exposedFront_cons] using h

/-- What follows makes no sign of a mild character before it. -/
def Follows (marks : List (Char × Bool)) : Prop :=
  ∀ mark ∈ marks.head?, isHarmless mark.1 = true

@[simp]
theorem lexemes_nil : lexemes [] = [] := rfl

theorem lexemes_cons_of_isMild {c : Char} {marks : List (Char × Bool)} (hc : isMild c = true)
    (h : Follows marks) : lexemes ((c, true) :: marks) = .char c true :: lexemes marks := by
  have hnone : longestSign? signs (exposedFront ((c, true) :: marks)) = none := by
    rw [exposedFront_cons]
    refine longestSign?_of_isMild hc fun next hnext => ?_
    exact h _ (mem_head?_of_mem_head?_exposedFront hnext)
  simp only [lexemes, lexemesFrom, hnone]

theorem lexemes_cons_hidden (c : Char) (marks : List (Char × Bool)) :
    lexemes ((c, false) :: marks) = .char c false :: lexemes marks := by
  simp only [lexemes, lexemesFrom, exposedFront_cons_hidden, longestSign?_nil]

theorem lexemesFrom_eq (skip : Nat) (marks : List (Char × Bool)) :
    lexemesFrom signs skip marks = lexemes (marks.drop skip) := by
  induction marks generalizing skip with
  | nil => simp [lexemes, lexemesFrom]
  | cons mark rest ih =>
      cases skip with
      | zero => rfl
      | succ skip => simp only [lexemesFrom, ih, List.drop_succ_cons]

theorem lexemes_of_longest {c : Char} {marks : List (Char × Bool)} {symbol : String}
    (h : longestSign? signs (exposedFront ((c, true) :: marks)) = some symbol) :
    lexemes ((c, true) :: marks) =
      .sign symbol :: lexemes (marks.drop (symbol.toList.length - 1)) := by
  simp only [lexemes, lexemesFrom, h]
  rw [lexemesFrom_eq, lexemes]

theorem exposedFront_append_blank (marks rest : List (Char × Bool)) :
    exposedFront (marks ++ (' ', true) :: rest) = exposedFront marks ∨
      exposedFront (marks ++ (' ', true) :: rest) =
        exposedFront marks ++ ' ' :: exposedFront rest := by
  induction marks with
  | nil => exact .inr rfl
  | cons mark others ih =>
      obtain ⟨c, exposed⟩ := mark
      cases exposed with
      | false => exact .inl rfl
      | true =>
          rw [List.cons_append, exposedFront_cons, exposedFront_cons]
          exact ih.imp (congrArg (c :: ·)) (congrArg (c :: ·))

theorem longestSign?_exposedFront_append_blank (marks rest : List (Char × Bool)) :
    longestSign? signs (exposedFront (marks ++ (' ', true) :: rest)) =
      longestSign? signs (exposedFront marks) := by
  rcases exposedFront_append_blank marks rest with heq | heq
  · rw [heq]
  · rw [heq, longestSign?_append_blank blank_not_mem_signs]

theorem length_exposedFront_le (marks : List (Char × Bool)) :
    (exposedFront marks).length ≤ marks.length := by
  rw [exposedFront, List.length_map]
  exact (List.takeWhile_sublist _).length_le

/-- A sign ends where a blank is. -/
theorem lexemesFrom_append_blank {skip : Nat} {marks : List (Char × Bool)}
    (hskip : skip ≤ marks.length) (rest : List (Char × Bool)) :
    lexemesFrom signs skip (marks ++ (' ', true) :: rest) =
      lexemesFrom signs skip marks ++ .char ' ' true :: lexemes rest := by
  induction marks generalizing skip with
  | nil =>
      obtain rfl := Nat.le_zero.mp hskip
      have hnone := longestSign?_exposedFront_append_blank [] rest
      rw [List.nil_append] at hnone
      simp only [List.nil_append, lexemesFrom, hnone]
      rfl
  | cons mark others ih =>
      cases skip with
      | succ skip =>
          simp only [List.cons_append, lexemesFrom]
          exact ih (Nat.le_of_succ_le_succ hskip)
      | zero =>
          have hfront := longestSign?_exposedFront_append_blank (mark :: others) rest
          rw [List.cons_append] at hfront
          simp only [List.cons_append, lexemesFrom, hfront]
          cases hlongest : longestSign? signs (exposedFront (mark :: others)) with
          | none => exact congrArg _ (ih (Nat.zero_le _))
          | some symbol =>
              have hlength := (longestSign?_eq_some hlongest).2.1.length_le
              have hfits := length_exposedFront_le (mark :: others)
              refine congrArg _ (ih ?_)
              simp only [List.length_cons] at hfits
              omega

theorem lexemes_append_blank (marks rest : List (Char × Bool)) :
    lexemes (marks ++ (' ', true) :: rest) = lexemes marks ++ .char ' ' true :: lexemes rest :=
  lexemesFrom_append_blank (Nat.zero_le _) rest

/-- Lexemes write what they are read from. -/
theorem flatMap_text_lexemesFrom (skip : Nat) (marks : List (Char × Bool)) :
    (lexemesFrom signs skip marks).flatMap Lexeme.text = (marks.map Prod.fst).drop skip := by
  induction marks generalizing skip with
  | nil => simp [lexemesFrom]
  | cons mark rest ih =>
      cases skip with
      | succ skip => simpa only [lexemesFrom, List.map_cons, List.drop_succ_cons] using ih skip
      | zero =>
          obtain ⟨c, exposed⟩ := mark
          simp only [lexemesFrom]
          cases hlongest : longestSign? signs (exposedFront ((c, exposed) :: rest)) with
          | none => simp [Lexeme.text, ih]
          | some symbol =>
              have hprefix : symbol.toList <+: ((c, exposed) :: rest).map Prod.fst :=
                (longestSign?_eq_some hlongest).2.1.trans ((List.takeWhile_prefix _).map _)
              obtain ⟨later, hlater⟩ := hprefix
              cases hchars : symbol.toList with
              | nil =>
                  have hempty := List.all_eq_true.mp signs_of_isMild symbol
                    (longestSign?_eq_some hlongest).1
                  simp [hchars] at hempty
              | cons first more =>
                  rw [hchars, List.map_cons, List.cons_append] at hlater
                  obtain ⟨rfl, hmore⟩ := List.cons.inj hlater
                  simp [Lexeme.text, ih, hchars, ← hmore]

/-! ### Texts -/

/-- A text is read as lexemes outside all brackets, before anything that makes no sign of its last
character. -/
structure Shows (text : String) (items : List Lexeme) : Prop where
  opens : ∀ c ∈ text.toList.head?, isHarmless c = true
  reads : ∃ marks, Place.top.readAll? text.toList = some (.top, marks) ∧
    ∀ rest, Follows rest → lexemes (marks ++ rest) = items ++ lexemes rest

namespace Shows

variable {text first second : String} {items before after : List Lexeme}

theorem append (h₁ : Shows first before) (h₂ : Shows second after) :
    Shows (first ++ second) (before ++ after) := by
  obtain ⟨marks₁, hread₁, hlexemes₁⟩ := h₁.reads
  obtain ⟨marks₂, hread₂, hlexemes₂⟩ := h₂.reads
  refine ⟨fun c hc => ?_, marks₁ ++ marks₂, ?_, fun rest hrest => ?_⟩
  · cases hfirst : first.toList with
    | nil => exact h₂.opens c (by simpa [hfirst] using hc)
    | cons d others => exact h₁.opens c (by simpa [hfirst] using hc)
  · simp [Place.readAll?_append, hread₁, hread₂]
  · have hfollows : Follows (marks₂ ++ rest) := by
      intro mark hmark
      cases marks₂ with
      | nil => exact hrest mark hmark
      | cons next others =>
          obtain rfl : next = mark := by simpa using hmark
          refine h₂.opens _ ?_
          rw [← Place.map_fst_of_readAll? hread₂]
          rfl
    rw [List.append_assoc, hlexemes₁ _ hfollows, hlexemes₂ rest hrest, List.append_assoc]

theorem lexemes?_eq (h : Shows text items) : lexemes? text.toList = some items := by
  obtain ⟨marks, hread, hlexemes⟩ := h.reads
  have hitems := hlexemes [] (by simp [Follows])
  rw [List.append_nil, lexemes_nil, List.append_nil] at hitems
  simp [lexemes?, hread, hitems]

theorem flatMap_text (h : Shows text items) : items.flatMap Lexeme.text = text.toList := by
  obtain ⟨marks, hread, hlexemes⟩ := h.reads
  have hitems := hlexemes [] (by simp [Follows])
  have hwritten := flatMap_text_lexemesFrom 0 marks
  rw [List.append_nil, lexemes_nil, List.append_nil] at hitems
  rw [← lexemes, hitems, Place.map_fst_of_readAll? hread, List.drop_zero] at hwritten
  exact hwritten

theorem of_isMild (h : text.toList.all isMild = true) :
    Shows text (text.toList.map fun c => .char c true) := by
  have hall := List.all_eq_true.mp h
  refine ⟨fun c hc => isHarmless_of_isMild (hall c (List.mem_of_mem_head? hc)),
    text.toList.map (·, true), Place.keeps_of_forall fun c hc => ?_, ?_⟩
  · obtain ⟨hbracket, hquote⟩ : isBracket c = false ∧ c ≠ '"' := by
      have hmild := hall c hc
      simp_all [isMild, isInert]
    simp [Place.top, Place.read?, hquote, bracket?_of_isBracket_eq_false hbracket]
  · intro rest hrest
    generalize text.toList = chars at hall
    induction chars with
    | nil => rfl
    | cons c others ih =>
        obtain ⟨hc, hothers⟩ := List.forall_mem_cons.mp hall
        have hfollows : Follows (others.map (·, true) ++ rest) := by
          cases others with
          | nil => exact hrest
          | cons next more =>
              intro mark hmark
              obtain rfl : (next, true) = mark := by simpa using hmark
              exact isHarmless_of_isMild (hothers next List.mem_cons_self)
        rw [List.map_cons, List.cons_append, lexemes_cons_of_isMild hc hfollows, ih hothers]
        rfl

theorem of_hidden (hopens : ∀ c ∈ text.toList.head?, isHarmless c = true) (h : Hidden text) :
    Shows text (text.toList.map fun c => .char c false) := by
  refine ⟨hopens, text.toList.map (·, false), h [], fun rest _ => ?_⟩
  induction text.toList with
  | nil => rfl
  | cons c others ih =>
      rw [List.map_cons, List.cons_append, lexemes_cons_hidden, ih]
      rfl

/-- A text that ends with a blank is read alike whatever follows it. -/
theorem of_blank {marks : List (Char × Bool)}
    (hopens : ∀ c ∈ (text ++ " ").toList.head?, isHarmless c = true)
    (hread : Place.top.readAll? text.toList = some (.top, marks)) :
    Shows (text ++ " ") (lexemes marks ++ [.char ' ' true]) := by
  refine ⟨hopens, marks ++ [(' ', true)], ?_, fun rest _ => ?_⟩
  · have hblank : Place.top.readAll? " ".toList = some (.top, [(' ', true)]) := rfl
    simp only [String.toList_append, Place.readAll?_append, hread, Option.bind_some, hblank]
    rfl
  · rw [List.append_assoc, List.singleton_append, lexemes_append_blank]
    simp

end Shows

end Snippet.Loop
