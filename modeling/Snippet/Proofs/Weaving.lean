import Mathlib.Data.List.Flatten
import Mathlib.Data.List.Forall2
import Mathlib.Data.List.Perm.Basic
import Snippet.Comment.Scan
import Snippet.Proofs.Cursor
import Snippet.Proofs.Walk
import Snippet.Render.Rendering

/-!
# Comments among the code

A page plays the same script whether or not there are records. With records it writes the same lines
of code in the same order, puts whole lines of comments before them and tails after them, and takes
the records off the front of the list one by one, so that none is written twice and none with a text
is lost.
-/

namespace Snippet

open Comment (Cursor Record Remark)
open Layout Render Script

/-! ### Blank lines are passed over at braces on lines of their own only -/

/-- Whether blocks of a target stand between braces on lines of their own. -/
def Target.ownLineBraces : Target → Bool
  | .curly _ style => style.ownLineOffset.isSome
  | .pseudocode _ => false

theorem Target.Emits.skipBlank_not_mem {target : Target} {steps : List Step}
    (h : target.Emits steps) (hbraces : target.ownLineBraces = false) : Step.skipBlank ∉ steps := by
  have hstyle : ∀ {dialect : Dialect} {style : BraceStyle}, target = .curly dialect style →
      style.ownLineOffset = none := by
    rintro dialect style rfl
    simpa [ownLineBraces] using hbraces
  induction h with
  | nil => simp
  | append _ _ ih₁ ih₂ => simp [ih₁, ih₂]
  | line text => simp [Step.line]
  | deeper _ ih => simp [ih]
  | opening braces header => simp [BraceStyle.opening, hstyle braces, Step.line]
  | middle braces header => simp [BraceStyle.middle, hstyle braces, Step.line]
  | closing braces closer => simp [BraceStyle.closing, hstyle braces, Step.line]

theorem walked_skipBlank_not_mem {target : Target} (hbraces : target.ownLineBraces = false) :
    Walked target fun script => ∀ around, Step.skipBlank ∉ (script around).steps where
  pure _ _ := by simp [pure, Script.pure]
  bind h₁ h₂ around := by
    rw [bind_apply]
    split
    · simpa using ⟨h₁ around, h₂ _ _⟩
    · exact h₁ around
  surroundings _ := by simp [Script.surroundings]
  text _ _ := by simp [Script.text]
  declare _ _ _ := by simp [Script.declare]
  prepare _ _ := by simp [Script.emit]
  emit h _ := h.skipBlank_not_mem hbraces
  reject _ _ := by simp [Script.emit?]
  begin? node h around := by
    rw [begin?]
    split
    · next inside steps hform => exact (h hform).2.skipBlank_not_mem hbraces
    · simp
  inScope h around := h around.pushScope
  indented className h around := by
    simpa [indented] using h (around.enter className)

/-! ### What a step does with the records it meets -/

namespace Layout

structure OwnLine where
  indent : Nat
  record : Record

/-- A blank record shows as an empty line, a comment as indentation and its spelling. -/
def OwnLine.text (unit : IndentUnit) (spell : String → String) (line : OwnLine) : String :=
  match line.record.remark.text? with
  | none => "\n"
  | some text => Line.indented unit line.indent (spell text) ++ "\n"

/-- What became of the records at one step of a script. -/
inductive Moment where
  /-- A line of code was written, with whole lines before it, perhaps an `else` record that shows
  nothing, and perhaps a tail after it. -/
  | write (own : List OwnLine) (code : String) (marker tail : Option Record)
  | pass (blank : Option Record)

namespace Moment

def records : Moment → List Record
  | write own _ marker tail => own.map OwnLine.record ++ (marker.toList ++ tail.toList)
  | pass blank => blank.toList

def shown : Moment → List Record
  | write own _ _ tail => own.map OwnLine.record ++ tail.toList
  | pass _ => []

/-- The `else` records, which show nothing. -/
def markers : Moment → List Record
  | write _ _ marker _ => marker.toList
  | pass _ => []

def passed : Moment → List Record
  | write .. => []
  | pass blank => blank.toList

def plain : Moment → String
  | write _ code _ _ => code ++ "\n"
  | pass _ => ""

def tailText (spell : String → String) (tail : Option Record) : String :=
  match tail.bind (·.remark.text?) with
  | none => ""
  | some text => " " ++ spell text

def text (unit : IndentUnit) (spell : String → String) : Moment → String
  | write own code _ tail =>
    String.join (own.map (OwnLine.text unit spell)) ++ (code ++ (tailText spell tail ++ "\n"))
  | pass _ => ""

def Fits (unit : IndentUnit) : Step → Moment → Prop
  | .code text comments _, write own code marker tail =>
    (∃ indent, code = Line.indented unit indent text) ∧ (comments = false → own = []) ∧
      (∀ line ∈ own, line.record.remark.isWholeLine = true) ∧
      (∀ record ∈ marker, record.remark = .elseLine) ∧
      ∀ record ∈ tail, ∃ text, record.remark = .tail text
  | .skipBlank, pass blank => ∀ record ∈ blank, record.remark = .blank
  | _, _ => False

theorem shown_sublist (moment : Moment) : moment.shown.Sublist moment.records := by
  cases moment with
  | write own code marker tail => exact (List.sublist_append_right _ _).append_left _
  | pass blank => exact List.nil_sublist _

theorem records_perm (moment : Moment) :
    moment.records.Perm (moment.shown ++ (moment.markers ++ moment.passed)) := by
  cases moment with
  | write own code marker tail =>
      simp only [records, shown, markers, passed, List.append_nil, List.append_assoc]
      exact List.perm_append_comm.append_left _
  | pass blank => exact .refl _

variable {unit : IndentUnit} {step : Step} {moment : Moment}

theorem Fits.remark_marker (h : moment.Fits unit step) :
    ∀ record ∈ moment.markers, record.remark = .elseLine := by
  cases moment <;> cases step <;> simp_all [Fits, markers]

theorem Fits.remark_passed (h : moment.Fits unit step) :
    ∀ record ∈ moment.passed, record.remark = .blank := by
  cases moment <;> cases step <;> simp_all [Fits, passed]

theorem Fits.remark_shown (h : moment.Fits unit step) :
    ∀ record ∈ moment.shown, record.remark ≠ .elseLine := by
  cases step with
  | code text comments offset =>
      cases moment with
      | pass => exact h.elim
      | write own code marker tail =>
          obtain ⟨-, -, hown, -, htail⟩ := h
          intro record hrecord helse
          rcases List.mem_append.mp hrecord with hrecord | hrecord
          · obtain ⟨line, hline, rfl⟩ := List.mem_map.mp hrecord
            simpa [helse, Remark.isWholeLine] using hown line hline
          · obtain ⟨text, htext⟩ := htail record (by simpa using hrecord)
            simp [helse] at htext
  | _ => cases moment <;> simp_all [Fits, shown]

theorem Fits.passed_eq_nil (h : moment.Fits unit step) (hstep : step ≠ .skipBlank) :
    moment.passed = [] := by
  cases moment <;> cases step <;> simp_all [Fits, passed]

end Moment

/-- Whether a step meets the records: it writes a line of code or passes over a blank line. -/
def Step.meetsRecords : Step → Bool
  | .code .. | .skipBlank => true
  | _ => false

theorem textOf_append (unit : IndentUnit) (spell : String → String) (first second : List Line) :
    textOf unit spell (first ++ second) = textOf unit spell first ++ textOf unit spell second := by
  rw [textOf, List.map_append, String.join_append]
  rfl

theorem textOf_map_replayed (unit : IndentUnit) (spell : String → String) (indent : Nat)
    (records : List Record) :
    textOf unit spell ((records.map (·.remark.text?)).map (replayed indent)) =
      String.join ((records.map (OwnLine.mk indent)).map (OwnLine.text unit spell)) := by
  induction records with
  | nil => rfl
  | cons record rest ih =>
      simp only [textOf, List.map_cons, String.join_cons] at ih ⊢
      rw [ih]
      congr 1
      rw [OwnLine.text]
      cases record.remark.text? <;> rfl

theorem textOf_singleton (unit : IndentUnit) (spell : String → String) (line : Line) :
    textOf unit spell [line] = line.text unit spell := by
  simp [textOf]

theorem text_code (unit : IndentUnit) (spell : String → String) (indent : Nat) (text : String)
    (tail : Option Record) :
    Line.text unit spell (.code indent text (tail.bind (·.remark.text?))) =
      Line.indented unit indent text ++ (Moment.tailText spell tail ++ "\n") := by
  rw [Moment.tailText]
  cases tail.bind (·.remark.text?) with
  | none => simp [Line.text]
  | some comment => simp [Line.text, String.append_assoc]

/-- Steps that are played once from `page` and once from the bare page, seen as the moments they
lead to. -/
structure Weaves (unit : IndentUnit) (spell : String → String) (steps : List Step) (page bare : Page)
    (played playedBare : List Line × Page) (moments : List Moment) : Prop where
  fits : List.Forall₂ (Moment.Fits unit) (steps.filter Step.meetsRecords) moments
  text : textOf unit spell played.1 = String.join (moments.map (Moment.text unit spell))
  plain : textOf unit spell playedBare.1 = String.join (moments.map Moment.plain)
  records : page.cursor.rest = moments.flatMap Moment.records ++ played.2.cursor.rest
  level : bare.level = page.level → playedBare.2.level = played.2.level
  rest : playedBare.2.cursor.rest = []

variable {unit : IndentUnit} {spell : String → String} {page bare : Page}

/-- Writing a line of code with records in front of the page is one moment, and without records it
leaves the line of code alone. -/
theorem Page.exists_weaves_write (text : String) (comments : Bool) (offset : Number.Single)
    (hlevel : bare.level = page.level) (hbare : bare.cursor.rest = []) :
    ∃ moment, Weaves unit spell [.code text comments offset] page bare
      (page.write unit text comments offset) (bare.write unit text comments offset) [moment] := by
  obtain ⟨own, flushed, hflush, hrest, hown, hnone⟩ : ∃ (own : List Record) (flushed : Cursor),
      (if comments then page.cursor.flush else ([], page.cursor)) =
        (own.map (·.remark.text?), flushed) ∧
      page.cursor.rest = own ++ flushed.rest ∧
      (∀ record ∈ own, record.remark.isWholeLine = true) ∧ (comments = false → own = []) := by
    cases comments with
    | false => exact ⟨[], page.cursor, rfl, rfl, by simp, fun _ => rfl⟩
    | true =>
        obtain ⟨own, hrest, htexts, hown, -⟩ := page.cursor.exists_flush
        exact ⟨own, page.cursor.flush.2, Prod.ext htexts rfl, hrest, hown, by simp⟩
  have hbareFlush : (if comments then bare.cursor.flush else ([], bare.cursor)) =
      (([] : List (Option String)), bare.cursor) := by
    rw [Cursor.flush_of_rest_nil hbare, ite_self]
  obtain ⟨marker, hmarkerRest, hmarker⟩ := flushed.exists_takeElse
  obtain ⟨tail, htailRest, htailText, htail, -⟩ := flushed.takeElse.2.exists_takeTail
  refine ⟨.write (own.map (OwnLine.mk (unit.countAt page.level .zero)))
    (Line.indented unit (unit.countAt page.level offset) text) marker tail, ?_, ?_, ?_, ?_, ?_, ?_⟩
  · refine .cons ⟨⟨_, rfl⟩, fun h => by simp [hnone h], ?_, hmarker, htail⟩ .nil
    intro line hline
    obtain ⟨record, hrecord, rfl⟩ := List.mem_map.mp hline
    exact hown record hrecord
  · simp only [Page.write, hflush, htailText]
    rw [textOf_append, textOf_map_replayed, textOf_singleton, text_code, List.map_map]
    simp [Moment.text]
  · simp only [Page.write, hbareFlush, Cursor.takeElse_of_rest_nil hbare,
      Cursor.takeTail_of_rest_nil hbare, hlevel]
    rw [List.map_nil, List.nil_append, textOf_singleton]
    simp [Moment.plain, Line.text]
  · simp only [Page.write, hflush, List.flatMap_singleton, Moment.records, List.map_map]
    rw [hrest, hmarkerRest, htailRest]
    simp [Function.comp_def]
  · exact fun h => h
  · simp only [Page.write, hbareFlush, Cursor.takeElse_of_rest_nil hbare,
      Cursor.takeTail_of_rest_nil hbare, hbare]

theorem Page.exists_weaves_step (step : Step) (hlevel : bare.level = page.level)
    (hbare : bare.cursor.rest = []) :
    ∃ moments, Weaves unit spell [step] page bare (page.step unit step) (bare.step unit step)
      moments := by
  cases step with
  | code text comments offset =>
      obtain ⟨moment, h⟩ := exists_weaves_write text comments offset hlevel hbare
      exact ⟨[moment], h⟩
  | skipBlank =>
      obtain ⟨blank, hrest, hblank⟩ := page.cursor.exists_skipBlank
      refine ⟨[.pass blank], .cons hblank .nil, rfl, rfl, ?_, fun h => h, ?_⟩
      · simpa [Moment.records, Page.step] using hrest
      · simpa [Page.step, Cursor.skipBlank_of_rest_nil hbare] using hbare
  | prepare line => exact ⟨[], .nil, rfl, rfl, rfl, fun h => h, hbare⟩
  | indent => exact ⟨[], .nil, rfl, rfl, rfl, congrArg (· + 1), hbare⟩
  | dedent => exact ⟨[], .nil, rfl, rfl, rfl, congrArg (· - 1), hbare⟩

theorem Page.exists_weaves_play (steps : List Step) (hlevel : bare.level = page.level)
    (hbare : bare.cursor.rest = []) :
    ∃ moments, Weaves unit spell steps page bare (page.play unit steps) (bare.play unit steps)
      moments := by
  -- After each step the two pages are at one level and the bare one still has no records.
  induction steps generalizing page bare with
  | nil => exact ⟨[], .nil, rfl, rfl, rfl, fun h => h, hbare⟩
  | cons step rest ih =>
      obtain ⟨first, hfirst⟩ : ∃ moments, Weaves unit spell [step] page bare _ _ moments :=
        exists_weaves_step step hlevel hbare
      obtain ⟨last, hlast⟩ := ih (hfirst.level hlevel) hfirst.rest
      refine ⟨first ++ last, ?_, ?_, ?_, ?_, ?_, ?_⟩
      · rw [← List.singleton_append, List.filter_append]
        exact List.rel_append hfirst.fits hlast.fits
      · rw [List.map_append, String.join_append, ← hfirst.text, ← hlast.text, ← textOf_append]
        rfl
      · rw [List.map_append, String.join_append, ← hfirst.plain, ← hlast.plain, ← textOf_append]
        rfl
      · rw [hfirst.records, hlast.records, List.flatMap_append, List.append_assoc]
        rfl
      · exact fun h => hlast.level (hfirst.level h)
      · exact hlast.rest

theorem Moment.exists_fits_of_mem {steps : List Step} {moments : List Moment} {moment : Moment}
    (h : List.Forall₂ (Moment.Fits unit) steps moments) (hmem : moment ∈ moments) :
    ∃ step ∈ steps, moment.Fits unit step := by
  induction h with
  | nil => simp at hmem
  | cons hfits _ ih =>
      rcases List.mem_cons.mp hmem with rfl | hrest
      · exact ⟨_, List.mem_cons_self, hfits⟩
      · obtain ⟨step, hstep, hfound⟩ := ih hrest
        exact ⟨step, List.mem_cons_of_mem _ hstep, hfound⟩

/-! ### The records left over -/

theorem map_replayed_of_text_none (indent : Nat) {records : List Record}
    (h : ∀ record ∈ records, record.remark.text? = none) :
    (records.filter (·.remark ≠ .elseLine)).map (fun record => replayed indent record.remark.text?) =
      List.replicate (records.countP (·.remark = .blank)) .blank := by
  induction records with
  | nil => rfl
  | cons record rest ih =>
      have hrest := ih fun next hnext => h next (List.mem_cons_of_mem _ hnext)
      have hrecord := h record List.mem_cons_self
      cases hremark : record.remark with
      | blank => simp [hremark, List.replicate_succ, replayed, Remark.text?, ← hrest]
      | elseLine => simp [hremark, ← hrest]
      | own text => simp [hremark, Remark.text?] at hrecord
      | tail text => simp [hremark, Remark.text?] at hrecord

/-- What is left over is written up to the last comment, less the `else` records. The `pending`
records, none with a text, are those since the last comment, of which only the blank ones count. -/
theorem exists_leftover (indent : Nat) (pending records : List Record)
    (h : ∀ record ∈ pending, record.remark.text? = none) :
    ∃ kept trailing : List Record, pending ++ records = kept ++ trailing ∧
      (∀ record ∈ trailing, record.remark.text? = none) ∧
      leftover indent (pending.countP (·.remark = .blank)) records =
        (kept.filter (·.remark ≠ .elseLine)).map
          fun record => replayed indent record.remark.text? := by
  induction records generalizing pending with
  | nil => exact ⟨[], pending, by simp, h, by simp [leftover]⟩
  | cons record rest ih =>
      cases htext : record.remark.text? with
      | none =>
          have hpending : ∀ next ∈ pending ++ [record], next.remark.text? = none := by
            simpa [or_imp, forall_and, htext] using h
          obtain ⟨kept, trailing, hsplit, htrailing, hleft⟩ := ih (pending ++ [record]) hpending
          refine ⟨kept, trailing, by simpa using hsplit, htrailing, ?_⟩
          rw [← hleft, leftover]
          cases hremark : record.remark <;> simp_all [Remark.text?]
      | some text =>
          obtain ⟨kept, trailing, hsplit, htrailing, hleft⟩ := ih [] (by simp)
          have hshown : record.remark ≠ .elseLine := by
            rintro helse
            simp [helse, Remark.text?] at htext
          refine ⟨pending ++ record :: kept, trailing, by simpa using hsplit, htrailing, ?_⟩
          rw [List.filter_append, List.map_append, map_replayed_of_text_none indent h,
            List.filter_cons_of_pos (by simpa using hshown), List.map_cons, ← hleft, leftover]
          cases hremark : record.remark <;> simp_all [Remark.text?, replayed]

/-- What became of all the records: those met at the lines of code, and those left over, which are
`kept` up to the last comment. -/
structure Weaving where
  moments : List Moment
  indent : Nat
  kept : List Record
  trailing : List Record

namespace Weaving

def last (weaving : Weaving) : List OwnLine :=
  (weaving.kept.filter (·.remark ≠ .elseLine)).map (OwnLine.mk weaving.indent)

def plain (weaving : Weaving) : String := String.join (weaving.moments.map Moment.plain)

def text (unit : IndentUnit) (spell : String → String) (weaving : Weaving) : String :=
  String.join (weaving.moments.map (Moment.text unit spell)) ++
    String.join (weaving.last.map (OwnLine.text unit spell))

def records (weaving : Weaving) : List Record :=
  weaving.moments.flatMap Moment.records ++ (weaving.kept ++ weaving.trailing)

def shown (weaving : Weaving) : List Record :=
  weaving.moments.flatMap Moment.shown ++ weaving.last.map OwnLine.record

def markers (weaving : Weaving) : List Record :=
  weaving.moments.flatMap Moment.markers ++ weaving.kept.filter (·.remark = .elseLine)

def passed (weaving : Weaving) : List Record := weaving.moments.flatMap Moment.passed

theorem map_record_last (weaving : Weaving) :
    weaving.last.map OwnLine.record = weaving.kept.filter (·.remark ≠ .elseLine) := by
  simp [last, Function.comp_def]

theorem shown_sublist (weaving : Weaving) : weaving.shown.Sublist weaving.records := by
  refine .append ?_ ?_
  · exact List.Sublist.flatMap_right _ fun moment _ => moment.shown_sublist
  · rw [map_record_last]
    exact List.filter_sublist.trans (List.sublist_append_left _ _)

/-- Every record shows, is an `else` record, was passed over, or comes after the last comment. -/
theorem records_perm (weaving : Weaving) :
    weaving.records.Perm
      (weaving.shown ++ (weaving.markers ++ weaving.passed ++ weaving.trailing)) := by
  have hmoments : (weaving.moments.flatMap Moment.records).Perm
      (weaving.moments.flatMap Moment.shown ++
        (weaving.moments.flatMap Moment.markers ++ weaving.moments.flatMap Moment.passed)) :=
    calc
      List.Perm _ (weaving.moments.flatMap fun moment =>
          moment.shown ++ (moment.markers ++ moment.passed)) :=
        List.Perm.flatMap_left _ fun moment _ => moment.records_perm
      List.Perm _ (weaving.moments.flatMap Moment.shown ++
          weaving.moments.flatMap fun moment => moment.markers ++ moment.passed) :=
        (List.flatMap_append_perm _ _ _).symm
      List.Perm _ _ := ((List.flatMap_append_perm _ _ _).symm).append_left _
  have hkept := List.filter_append_perm (fun record : Record => record.remark = .elseLine)
    weaving.kept
  refine List.perm_iff_count.mpr fun record => ?_
  have hcount := hmoments.count_eq record
  have hcountKept := hkept.count_eq record
  simp only [records, shown, markers, passed, map_record_last, List.count_append] at hcount hcountKept ⊢
  simp only [decide_not] at hcountKept ⊢
  omega

/-- A record with a text always shows, once and in its place. -/
theorem filter_shown (weaving : Weaving)
    (hmarkers : ∀ record ∈ weaving.markers, record.remark = .elseLine)
    (hpassed : ∀ record ∈ weaving.passed, record.remark = .blank)
    (htrailing : ∀ record ∈ weaving.trailing, record.remark.text? = none) :
    weaving.shown.filter (·.remark.text?.isSome) =
      weaving.records.filter (·.remark.text?.isSome) := by
  have hhidden : (weaving.markers ++ weaving.passed ++ weaving.trailing).filter
      (·.remark.text?.isSome) = [] := by
    refine List.filter_eq_nil_iff.mpr fun record hrecord => ?_
    rcases List.mem_append.mp hrecord with hrecord | hrecord
    · rcases List.mem_append.mp hrecord with hmarker | hblank
      · simp [hmarkers record hmarker, Remark.text?]
      · simp [hpassed record hblank, Remark.text?]
    · simp [htrailing record hrecord]
  -- A sublist that is as long as the whole list is the whole list.
  have hperm := weaving.records_perm.filter (·.remark.text?.isSome)
  rw [List.filter_append, hhidden, List.append_nil] at hperm
  exact (weaving.shown_sublist.filter _).eq_of_length hperm.length_eq.symm

/-- The output with records is the one without them, and every record is accounted for. -/
structure Joins (target : Target) (unit : IndentUnit) (steps : List Step) (records : List Record)
    (plain woven : String) (weaving : Weaving) : Prop where
  /-- Each step that meets the records is one moment, and each `code` step one line of code. -/
  fits : List.Forall₂ (Moment.Fits unit) (steps.filter Step.meetsRecords) weaving.moments
  plain_eq : plain = weaving.plain
  woven_eq : woven = weaving.text unit target.lineComment
  records_eq : weaving.records = records
  shown_sublist : weaving.shown.Sublist records
  accounted : records.Perm
    (weaving.shown ++ (weaving.markers ++ weaving.passed ++ weaving.trailing))
  texts : weaving.shown.filter (·.remark.text?.isSome) = records.filter (·.remark.text?.isSome)
  shown_ne_else : ∀ record ∈ weaving.shown, record.remark ≠ .elseLine
  markers_else : ∀ record ∈ weaving.markers, record.remark = .elseLine
  passed_blank : ∀ record ∈ weaving.passed, record.remark = .blank
  passed_braces : weaving.passed = [] ∨ target.ownLineBraces = true
  trailing_textless : ∀ record ∈ weaving.trailing, record.remark.text? = none
  newline_not_mem : ∀ record ∈ records, ∀ text, record.remark.text? = some text → '\n' ∉ text.toList

end Weaving

end Layout

/-! ### Rendering with and without records -/

theorem Page.exists_joins_play (target : Target) (unit : IndentUnit) (steps : List Step)
    (records : List Record) (hsteps : target.ownLineBraces = false → Step.skipBlank ∉ steps)
    (hlines : ∀ record ∈ records, ∀ text, record.remark.text? = some text → '\n' ∉ text.toList) :
    let woven := (Page.ofRecords records).play unit steps
    let plain := (Page.ofRecords []).play unit steps
    ∃ weaving : Weaving, weaving.Joins target unit steps records
      (textOf unit target.lineComment (plain.1 ++ (plain.2.finish unit).1))
      (textOf unit target.lineComment (woven.1 ++ (woven.2.finish unit).1)) := by
  intro woven plain
  obtain ⟨moments, hweaves⟩ : ∃ moments, Weaves unit target.lineComment steps
      (Page.ofRecords records) (Page.ofRecords []) woven plain moments :=
    Page.exists_weaves_play steps rfl rfl
  have hfits : ∀ moment ∈ moments, ∃ step ∈ steps, moment.Fits unit step := by
    intro moment hmem
    obtain ⟨step, hstep, hfit⟩ := Moment.exists_fits_of_mem hweaves.fits hmem
    exact ⟨step, List.mem_of_mem_filter hstep, hfit⟩
  have hdrained : woven.2.finish unit =
      (leftover (unit.countAt woven.2.level .zero) 0 woven.2.cursor.rest, (woven.2.finish unit).2) :=
    rfl
  -- The indentation of the last comments is some number; nothing below asks which.
  generalize unit.countAt woven.2.level .zero = indent at hdrained
  obtain ⟨kept, trailing, hsplit, htrailing, hleft⟩ :=
    exists_leftover indent [] woven.2.cursor.rest (by simp)
  let weaving : Weaving := ⟨moments, indent, kept, trailing⟩
  have hmarkers : ∀ record ∈ weaving.markers, record.remark = .elseLine := by
    intro record hrecord
    rcases List.mem_append.mp hrecord with hmoment | hkept
    · obtain ⟨moment, hmem, hmarker⟩ := List.mem_flatMap.mp hmoment
      obtain ⟨step, -, hfit⟩ := hfits moment hmem
      exact hfit.remark_marker record hmarker
    · simpa using (List.mem_filter.mp hkept).2
  have hpassed : ∀ record ∈ weaving.passed, record.remark = .blank := by
    intro record hrecord
    obtain ⟨moment, hmem, hblank⟩ := List.mem_flatMap.mp hrecord
    obtain ⟨step, -, hfit⟩ := hfits moment hmem
    exact hfit.remark_passed record hblank
  have hshown : ∀ record ∈ weaving.shown, record.remark ≠ .elseLine := by
    intro record hrecord
    rcases List.mem_append.mp hrecord with hmoment | hlast
    · obtain ⟨moment, hmem, hmet⟩ := List.mem_flatMap.mp hmoment
      obtain ⟨step, -, hfit⟩ := hfits moment hmem
      exact hfit.remark_shown record hmet
    · rw [Weaving.map_record_last] at hlast
      simpa using (List.mem_filter.mp hlast).2
  have hrecords : weaving.records = records := by
    have hrest : woven.2.cursor.rest = kept ++ trailing := by simpa using hsplit
    rw [Weaving.records, ← hrest]
    exact hweaves.records.symm
  refine ⟨weaving, hweaves.fits, ?_, ?_, hrecords, hrecords ▸ weaving.shown_sublist,
    hrecords ▸ weaving.records_perm, hrecords ▸ weaving.filter_shown hmarkers hpassed htrailing,
    hshown, hmarkers, hpassed, ?_, htrailing, hlines⟩
  · have hbare : (plain.2.finish unit).1 = [] := by
      simp [Page.finish, Cursor.drain, hweaves.rest, leftover]
    rw [hbare, List.append_nil]
    exact hweaves.plain
  · have hlast : (woven.2.finish unit).1 =
        ((kept.filter (·.remark ≠ .elseLine)).map (·.remark.text?)).map (replayed indent) := by
      rw [hdrained, List.map_map]
      exact hleft
    rw [textOf_append, hweaves.text, hlast, textOf_map_replayed]
    rfl
  · by_cases hbraces : target.ownLineBraces = true
    · exact Or.inr hbraces
    · left
      refine List.flatMap_eq_nil_iff.mpr fun moment hmem => ?_
      obtain ⟨step, hstep, hfit⟩ := hfits moment hmem
      refine hfit.passed_eq_nil ?_
      rintro rfl
      exact hsteps (by simpa using hbraces) hstep

/-- Comments are added to the code and none is lost. With the records of any source a program renders
exactly when it renders without records, and is otherwise rejected at the same node; the two outputs
have the same lines of code, and the records stand among them in order, each with a text once. -/
theorem render_joins (target : Target) (unit : IndentUnit) (program : Program) (source : String) :
    match program.render target unit [], program.render target unit (Comment.scan source) with
    | .error plain, .error woven => plain = woven
    | .ok plain, .ok woven => ∃ weaving : Weaving,
        weaving.Joins target unit (program.script target .outermost).steps (Comment.scan source)
          plain.text woven.text
    | _, _ => False := by
  have hsteps : target.ownLineBraces = false →
      Step.skipBlank ∉ (program.script target .outermost).steps :=
    fun hbraces => (walked_skipBlank_not_mem hbraces).program program .outermost
  rw [Program.render, Program.render, Program.play, Program.play]
  cases (program.script target .outermost).result with
  | error rejection => rfl
  | ok value =>
      refine Page.exists_joins_play target unit _ (Comment.scan source) hsteps ?_
      exact fun record hrecord text htext => Comment.newline_not_mem_of_mem_scan hrecord htext

end Snippet
