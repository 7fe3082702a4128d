import Snippet.Proofs.Outline.Quiet
import Snippet.Proofs.Stops

/-!
# Comments and the code of earlier lines

The output falls into passages, one for each stop of the walk, and the records of the comments are
taken in their order. No comment is taken before the page stands at its line or at a later one, so
where the stops go down the snippet, a comment comes after all passages of lines above it.
-/

namespace Snippet

open Comment (Cursor Record Remark)
open Layout Render

namespace Layout

namespace Line

/-- The comments that a line shows. -/
def comments : Line → List String
  | blank => []
  | comment _ text => [text]
  | code _ _ tail => tail.toList

def isCode : Line → Bool
  | code .. => true
  | _ => false

end Line

theorem comments_replayed (indent : Nat) (text : Option String) :
    (replayed indent text).comments = text.toList := by
  cases text <;> rfl

theorem comments_map_replayed (indent : Nat) (records : List Record) :
    ((records.map (·.remark.text?)).map (replayed indent)).flatMap Line.comments =
      records.filterMap (·.remark.text?) := by
  induction records with
  | nil => rfl
  | cons record rest ih =>
      rw [List.map_cons, List.map_cons, List.flatMap_cons, comments_replayed, ih,
        List.filterMap_cons]
      cases record.remark.text? <;> rfl

theorem comments_leftover (indent blanks : Nat) (records : List Record) :
    (leftover indent blanks records).flatMap Line.comments =
      records.filterMap (·.remark.text?) := by
  have hblank : ∀ count, (List.replicate count Line.blank).flatMap Line.comments = [] := by
    intro count
    exact List.flatMap_eq_nil_iff.mpr fun line hline => by rw [List.eq_of_mem_replicate hline]; rfl
  fun_induction leftover indent blanks records with
  | case1 => rfl
  | case2 blanks record rest helse ih =>
      simp [ih, helse, Remark.text?]
  | case3 blanks record rest hnone ih =>
      simp [ih, hnone, Remark.text?]
  | case4 blanks record rest text hown ih =>
      rw [List.flatMap_append, hblank, List.nil_append, List.flatMap_cons, ih, List.filterMap_cons,
        hown]
      rfl
  | case5 blanks record rest text htail ih =>
      rw [List.flatMap_append, hblank, List.nil_append, List.flatMap_cons, ih, List.filterMap_cons,
        htail]
      rfl

/-- Lines that show the comments of the records taken between two pages. -/
structure Shows (page next : Page) (lines : List Line) (taken : List Record) : Prop where
  rest : page.cursor.rest = taken ++ next.cursor.rest
  comments : lines.flatMap Line.comments = taken.filterMap (·.remark.text?)

/-- None of the records with a text is from below the line that was reached. -/
def TakenBy (reached : Nat) (taken : List Record) : Prop :=
  ∀ record ∈ taken, record.remark.text?.isSome = true → record.line ≤ reached

namespace Page

variable {unit : IndentUnit} {page : Page}

theorem exists_shows_write (text : String) (comments : Bool) (offset : Number.Single) :
    ∃ taken, Shows page (page.write unit text comments offset).2
      (page.write unit text comments offset).1 taken ∧ TakenBy page.cursor.line.toNat taken := by
  obtain ⟨own, flushed, hflush, hrest, hline, hown⟩ : ∃ (own : List Record) (flushed : Cursor),
      (if comments then page.cursor.flush else ([], page.cursor)) =
        (own.map (·.remark.text?), flushed) ∧
      page.cursor.rest = own ++ flushed.rest ∧ flushed.line = page.cursor.line ∧
      ∀ record ∈ own, record.line ≤ page.cursor.line.toNat := by
    cases comments with
    | false => exact ⟨[], page.cursor, rfl, rfl, rfl, by simp⟩
    | true =>
        obtain ⟨own, hrest, htexts, -, hown⟩ := page.cursor.exists_flush
        exact ⟨own, page.cursor.flush.2, Prod.ext htexts rfl, hrest, rfl, hown⟩
  obtain ⟨marker, hmarkerRest, hmarker⟩ := flushed.exists_takeElse
  obtain ⟨tail, htailRest, htailText, -, htail⟩ := flushed.takeElse.2.exists_takeTail
  rw [Cursor.line_takeElse, hline] at htail
  refine ⟨own ++ (marker.toList ++ tail.toList), ⟨?_, ?_⟩, ?_⟩
  · simp only [write, hflush, List.append_assoc]
    rw [hrest, hmarkerRest, htailRest]
  · have hnone : marker.toList.filterMap (·.remark.text?) = [] := by
      cases marker with
      | none => rfl
      | some record => simp [hmarker record rfl, Remark.text?]
    simp only [write, hflush, htailText, List.flatMap_append, comments_map_replayed,
      List.filterMap_append, hnone, List.nil_append, List.flatMap_singleton, Line.comments]
    cases tail <;> rfl
  · intro record hrecord htext
    rcases List.mem_append.mp hrecord with hrecord | hrecord
    · exact hown record hrecord
    · rcases List.mem_append.mp hrecord with hrecord | hrecord
      · simp [hmarker record (by simpa using hrecord), Remark.text?] at htext
      · exact htail record (by simpa using hrecord)

theorem exists_shows_step (unit : IndentUnit) (page : Page) (step : Step) :
    ∃ taken, Shows page (page.step unit step).2 (page.step unit step).1 taken ∧
      TakenBy page.cursor.line.toNat taken := by
  cases step with
  | code text comments offset => exact exists_shows_write text comments offset
  | skipBlank =>
      obtain ⟨blank, hrest, hblank⟩ := page.cursor.exists_skipBlank
      refine ⟨blank.toList, ⟨hrest, ?_⟩, fun record hrecord htext => ?_⟩
      · cases blank with
        | none => rfl
        | some record => simp [hblank record rfl, Remark.text?, step]
      · simp [hblank record (by simpa using hrecord), Remark.text?] at htext
  | prepare line => exact ⟨[], ⟨rfl, rfl⟩, by simp [TakenBy]⟩
  | indent => exact ⟨[], ⟨rfl, rfl⟩, by simp [TakenBy]⟩
  | dedent => exact ⟨[], ⟨rfl, rfl⟩, by simp [TakenBy]⟩

theorem line_write (text : String) (comments : Bool) (offset : Number.Single) :
    (page.write unit text comments offset).2.cursor.line = page.cursor.line := by
  cases comments with
  | false => rw [write]; exact (Cursor.line_takeTail _).trans (Cursor.line_takeElse _)
  | true => rw [write]; exact (Cursor.line_takeTail _).trans (Cursor.line_takeElse _)

/-- The page stands at the line that was prepared for last. -/
theorem line_step_le {step : Step} {reached : Nat} (hpage : page.cursor.line.toNat ≤ reached)
    (hstep : ∀ line, step = .prepare line → line.toNat ≤ reached) :
    (page.step unit step).2.cursor.line.toNat ≤ reached := by
  cases step with
  | prepare line => exact hstep line rfl
  | code text comments offset => rwa [Page.step, line_write]
  | skipBlank => rwa [Page.step, Cursor.line_skipBlank]
  | indent => exact hpage
  | dedent => exact hpage

/-- What a run shows stands no lower in the snippet than the lowest line it prepares for. -/
theorem exists_shows_play (unit : IndentUnit) (page : Page) (steps : List Step) :
    ∃ taken, Shows page (page.play unit steps).2 (page.play unit steps).1 taken ∧
      ∀ reached, page.cursor.line.toNat ≤ reached →
        (∀ line, .prepare line ∈ steps → line.toNat ≤ reached) →
        TakenBy reached taken := by
  induction steps generalizing page with
  | nil => exact ⟨[], ⟨rfl, rfl⟩, fun _ _ _ => by simp [TakenBy]⟩
  | cons step rest ih =>
      obtain ⟨first, hfirst, hfirstBy⟩ := page.exists_shows_step unit step
      obtain ⟨last, hlast, hlastBy⟩ := ih (page.step unit step).2
      refine ⟨first ++ last, ⟨?_, ?_⟩, fun reached hpage hsteps => ?_⟩
      · rw [hfirst.rest, hlast.rest, List.append_assoc]
        rfl
      · rw [List.filterMap_append, ← hfirst.comments, ← hlast.comments, ← List.flatMap_append]
        rfl
      · have hnext : (page.step unit step).2.cursor.line.toNat ≤ reached :=
          line_step_le hpage fun line hline => hsteps line (hline ▸ List.mem_cons_self)
        intro record hrecord htext
        rcases List.mem_append.mp hrecord with hrecord | hrecord
        · exact Nat.le_trans (hfirstBy record hrecord htext) hpage
        · exact hlastBy reached hnext (fun line hline => hsteps line (List.mem_cons_of_mem _ hline))
            record hrecord htext

end Page

end Layout

/-! ### Passages -/

/-- A stop with the lines that are written from there to the next stop. -/
structure Passage where
  stop : Stop
  lines : List Line

def Layout.Page.passages (unit : IndentUnit) : Page → List Turn → List Passage
  | _, [] => []
  | page, turn :: rest =>
    ⟨turn.stop, (page.play unit turn.steps).1⟩ :: passages unit (page.play unit turn.steps).2 rest

namespace Layout.Page

variable {unit : IndentUnit} {page : Page}

theorem play_steps (turn : Turn) :
    page.play unit turn.steps = (page.step unit (.prepare turn.stop.word)).2.play unit turn.own :=
  rfl

theorem map_stop_passages (turns : List Turn) :
    (page.passages unit turns).map Passage.stop = turns.map Turn.stop := by
  induction turns generalizing page with
  | nil => rfl
  | cons turn rest ih => rw [passages, List.map_cons, List.map_cons, ih]

theorem passages_append (first second : List Turn) :
    page.passages unit (first ++ second) = page.passages unit first ++
      (page.play unit (first.flatMap Turn.steps)).2.passages unit second := by
  induction first generalizing page with
  | nil => rfl
  | cons turn rest ih =>
      rw [List.cons_append, passages, ih, passages, List.flatMap_cons, play_append,
        List.cons_append]

theorem lines_passages (turns : List Turn) :
    (page.passages unit turns).flatMap Passage.lines =
      (page.play unit (turns.flatMap Turn.steps)).1 := by
  induction turns generalizing page with
  | nil => rfl
  | cons turn rest ih => rw [passages, List.flatMap_cons, ih, List.flatMap_cons, play_append]

theorem comments_passages (turns : List Turn) :
    (page.passages unit turns).flatMap (fun passage => passage.lines.flatMap Line.comments) =
      (page.play unit (turns.flatMap Turn.steps)).1.flatMap Line.comments := by
  rw [← lines_passages, List.flatMap_assoc]

/-- A passage comes from a turn. -/
theorem exists_turns_of_passages_eq {turns : List Turn} {earlier later : List Passage}
    {passage : Passage} (h : page.passages unit turns = earlier ++ passage :: later) :
    ∃ before turn after, turns = before ++ turn :: after ∧
      earlier ++ [passage] = page.passages unit (before ++ [turn]) ∧
      passage = ⟨turn.stop,
        ((page.play unit (before.flatMap Turn.steps)).2.play unit turn.steps).1⟩ ∧
      later = (page.play unit ((before ++ [turn]).flatMap Turn.steps)).2.passages unit after := by
  induction earlier generalizing page turns with
  | nil =>
      cases turns with
      | nil => cases h
      | cons turn rest =>
          obtain ⟨rfl, rfl⟩ := List.cons.inj h
          exact ⟨[], turn, rest, rfl, rfl, rfl, by simp⟩
  | cons first earlier ih =>
      cases turns with
      | nil => cases h
      | cons turn rest =>
          obtain ⟨rfl, hrest⟩ := List.cons.inj h
          obtain ⟨before, found, after, rfl, hearlier, hpassage, hlater⟩ := ih hrest
          refine ⟨turn :: before, found, after, rfl, ?_, ?_, ?_⟩
          · rw [List.cons_append, hearlier, List.cons_append, passages]
          · rw [hpassage, List.flatMap_cons, play_append]
          · rw [hlater, List.cons_append, List.flatMap_cons, play_append]

theorem exists_isCode_of_writesFirst {steps : List Step} (h : writesFirst steps = true) :
    ∃ line ∈ (page.play unit steps).1, line.isCode = true := by
  induction steps generalizing page with
  | nil => cases h
  | cons step rest ih =>
      cases step with
      | code text comments offset =>
          refine ⟨_, List.mem_append_left _ (List.mem_append_right _ (List.mem_singleton_self _)), ?_⟩
          rfl
      | prepare line => cases h
      | _ => exact ih h

end Layout.Page

def Passage.comments (passage : Passage) : List String := passage.lines.flatMap Line.comments

/-- The passages of a program among the records of its comments. -/
def Program.passages (target : Target) (unit : IndentUnit) (records : List Record)
    (program : Program) : List Passage :=
  (Page.ofRecords records).passages unit (program.turns target)

/-- The lines after the last passage, for the records that no passage reached. -/
def Program.leftovers (target : Target) (unit : IndentUnit) (records : List Record)
    (program : Program) : List Line :=
  (((Page.ofRecords records).play unit (program.script target .outermost).steps).2.finish unit).1

theorem Program.script_of_render {target : Target} {unit : IndentUnit} {records : List Record}
    {program : Program} {rendering : Rendering}
    (h : program.render target unit records = .ok rendering) :
    (program.script target .outermost).result = .ok () ∧
      rendering.text = textOf unit target.lineComment
        (((Page.ofRecords records).play unit (program.script target .outermost).steps).1 ++
          program.leftovers target unit records) := by
  rw [Program.render, Program.play] at h
  cases hresult : (program.script target .outermost).result with
  | error rejection =>
      rw [hresult] at h
      cases h
  | ok value =>
      rw [hresult] at h
      obtain rfl := Except.ok.inj h
      exact ⟨rfl, rfl⟩

/-- The passages and what is left over are the output, and there is a passage for each stop. Only a
statement with no others inside can write nothing. -/
theorem Program.passages_spec {target : Target} {unit : IndentUnit} {records : List Record}
    {program : Program} {rendering : Rendering}
    (h : program.render target unit records = .ok rendering) :
    rendering.text = textOf unit target.lineComment
        ((program.passages target unit records).flatMap Passage.lines ++
          program.leftovers target unit records) ∧
      (program.passages target unit records).map Passage.stop = program.stops ∧
      ∀ passage ∈ program.passages target unit records,
        passage.stop.isSimple = true ∨ ∃ line ∈ passage.lines, line.isCode = true := by
  obtain ⟨hresult, htext⟩ := Program.script_of_render h
  obtain ⟨hsteps, hstops, hwhole⟩ := Program.turns_spec hresult
  refine ⟨?_, (Page.map_stop_passages _).trans hstops, fun passage hpassage => ?_⟩
  · rw [htext, Program.passages, Page.lines_passages, ← hsteps]
  · obtain ⟨earlier, later, hsplit⟩ := List.append_of_mem hpassage
    obtain ⟨before, turn, after, hturns, -, rfl, -⟩ := Page.exists_turns_of_passages_eq hsplit
    have hturn : turn.Whole := hwhole turn (by rw [hturns]; simp)
    refine hturn.writes.imp_right fun hwrites => ?_
    rw [Page.play_steps]
    exact Page.exists_isCode_of_writesFirst hwrites

/-- The lines that turns prepare for are those of their stops. -/
theorem Turn.exists_stop_of_mem {turns : List Turn} (hwhole : ∀ turn ∈ turns, turn.Whole)
    {line : UInt64} (h : .prepare line ∈ turns.flatMap Turn.steps) :
    ∃ turn ∈ turns, turn.stop.word = line := by
  obtain ⟨turn, hturn, hstep⟩ := List.mem_flatMap.mp h
  rcases List.mem_cons.mp hstep with heq | hown
  · exact ⟨turn, hturn, (Step.prepare.inj heq).symm⟩
  · cases (hwhole turn hturn).prepared _ hown

/-- Where the stops go down the snippet, none before a turn is below it. -/
theorem Turn.line_le_of_mem {before after : List Turn} {turn : Turn}
    (h : ((before ++ turn :: after).map fun turn => turn.stop.line).Pairwise (· ≤ ·)) :
    ∀ found ∈ before ++ [turn], found.stop.line ≤ turn.stop.line := by
  rw [List.map_append, List.map_cons, List.pairwise_append] at h
  intro found hfound
  rcases List.mem_append.mp hfound with hbefore | hturn
  · exact h.2.2 _ (List.mem_map_of_mem hbefore) _ List.mem_cons_self
  · obtain rfl := List.mem_singleton.mp hturn
    exact Nat.le_refl _

/-- **Comments stay below the code above them.** Where the stops of a program go down the snippet,
the output is one passage for each stop and what is left over, and through each passage no comment
is shown that stands below the line of its stop in the snippet: such a comment comes in a later
passage or is left over. Only a statement with no stops inside can have a passage without code. -/
theorem comments_below_code (target : Target) (unit : IndentUnit) (program : Program)
    (source : String) (rendering : Rendering)
    (hlines : (program.stops.map Stop.line).Pairwise (· ≤ ·))
    (h : program.render target unit (Comment.scan source) = .ok rendering) :
    rendering.text = textOf unit target.lineComment
        ((program.passages target unit (Comment.scan source)).flatMap Passage.lines ++
          program.leftovers target unit (Comment.scan source)) ∧
      (program.passages target unit (Comment.scan source)).map Passage.stop = program.stops ∧
      (∀ passage ∈ program.passages target unit (Comment.scan source),
        passage.stop.isSimple = true ∨ ∃ line ∈ passage.lines, line.isCode = true) ∧
      ∀ earlier passage later,
        program.passages target unit (Comment.scan source) = earlier ++ passage :: later →
        ∃ shown left, Comment.scan source = shown ++ left ∧
          (earlier ++ [passage]).flatMap Passage.comments = shown.filterMap (·.remark.text?) ∧
          later.flatMap Passage.comments ++
              (program.leftovers target unit (Comment.scan source)).flatMap Line.comments =
            left.filterMap (·.remark.text?) ∧
          ∀ record ∈ shown, record.remark.text?.isSome = true →
            record.line ≤ passage.stop.line := by
  obtain ⟨htext, hstops, hcode⟩ := Program.passages_spec h
  refine ⟨htext, hstops, hcode, fun earlier passage later hsplit => ?_⟩
  obtain ⟨hresult, -⟩ := Program.script_of_render h
  obtain ⟨hsteps, hturnStops, hwhole⟩ := Program.turns_spec hresult
  obtain ⟨before, turn, after, hturns, hearlier, hpassage, rfl⟩ :=
    Page.exists_turns_of_passages_eq hsplit
  have hsplitSteps : (program.script target .outermost).steps =
      (before ++ [turn]).flatMap Turn.steps ++ after.flatMap Turn.steps := by
    rw [hsteps, hturns, ← List.flatMap_append, List.append_assoc]
    rfl
  obtain ⟨shown, hshown, hshownBy⟩ := (Page.ofRecords (Comment.scan source)).exists_shows_play
    unit ((before ++ [turn]).flatMap Turn.steps)
  obtain ⟨others, hothers, -⟩ := ((Page.ofRecords (Comment.scan source)).play unit
    ((before ++ [turn]).flatMap Turn.steps)).2.exists_shows_play unit
    (after.flatMap Turn.steps)
  refine ⟨shown, _, hshown.rest, ?_, ?_, ?_⟩
  · rw [← hshown.comments, hearlier]
    exact Page.comments_passages _
  · rw [hothers.rest, List.filterMap_append, ← hothers.comments, Program.leftovers, hsplitSteps,
      Page.play_append, Page.finish, Cursor.drain, comments_leftover]
    exact congrArg (· ++ _) (Page.comments_passages _)
  · rw [hpassage]
    refine hshownBy turn.stop.line (Nat.zero_le _) fun line hline => ?_
    rw [← hturnStops, List.map_map, hturns] at hlines
    have hwholeBefore : ∀ found ∈ before ++ [turn], found.Whole := fun found hfound =>
      hwhole found (by
        rw [hturns, List.append_cons]
        exact List.mem_append_left _ hfound)
    obtain ⟨found, hfound, rfl⟩ := Turn.exists_stop_of_mem hwholeBefore hline
    exact Turn.line_le_of_mem hlines found hfound

/-- A comment before the last line of a loop comes after all the lines of code above it. -/
theorem comments_below_code_loop :
    let program : Program := ⟨[.mk 1 (.whileLoop (.name "a")
      [.mk 2 (.expr (.name "b")), .mk 4 (.expr (.name "c"))])]⟩
    let source := "while a:  # one\n    b\n    # two\n    c\n"
    (program.stops.map Stop.line).Pairwise (· ≤ ·) ∧
      (program.passages .cpp .standard (Comment.scan source)).map
          (fun passage => (passage.stop.line, passage.comments)) =
        [(1, ["one"]), (2, []), (4, ["two"])] ∧
      ∃ rendering, program.render .cpp .standard (Comment.scan source) = .ok rendering ∧
        rendering.text = "while ( a ) // one\n\x7b\n    b;\n    // two\n    c;\n\x7d\n" ∧
        ∀ earlier passage later,
          program.passages .cpp .standard (Comment.scan source) = earlier ++ passage :: later →
          ∃ shown left, Comment.scan source = shown ++ left ∧
            (earlier ++ [passage]).flatMap Passage.comments = shown.filterMap (·.remark.text?) ∧
            ∀ record ∈ shown, record.remark.text?.isSome = true →
              record.line ≤ passage.stop.line := by
  intro program source
  have hlines : (program.stops.map Stop.line).Pairwise (· ≤ ·) := by decide
  obtain ⟨-, -, -, hbelow⟩ := comments_below_code .cpp .standard program source _ hlines rfl
  refine ⟨hlines, by decide, _, rfl, by decide, fun earlier passage later hsplit => ?_⟩
  obtain ⟨shown, left, hscan, hshown, -, hreached⟩ := hbelow earlier passage later hsplit
  exact ⟨shown, left, hscan, hshown, hreached⟩

end Snippet
