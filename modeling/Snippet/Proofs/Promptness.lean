import Mathlib
import Snippet.Proofs.Passages
import Snippet.Proofs.Queue
import Snippet.Source.Statement

/-!
# Comments on lines of their own come in time

A comment on a line of its own is written before the next line of code, unless a tail or a line of
`else` stands in front of it in the queue: these two are taken with a line of code only. So the
comments come in time where each tail and each `else` in front of them is taken by an earlier passage
that writes.
-/

namespace Snippet

open Comment (Cursor Record Remark)
open Layout Render Script

/-! ### The first line of code of a turn comes after the comments that are pending -/

namespace Layout

/-- Whether each first line of code after a line that is prepared for comes after the comments that
are pending. `opened` says that there is one already since that line. -/
def flushes : Bool → List Step → Bool
  | _, [] => true
  | opened, .code _ comments _ :: rest => (opened || comments) && flushes true rest
  | _, .prepare _ :: rest => flushes false rest
  | opened, _ :: rest => flushes opened rest

theorem flushes_of_flushes_false {steps : List Step} (h : flushes false steps = true)
    (opened : Bool) : flushes opened steps = true := by
  induction steps generalizing opened with
  | nil => rfl
  | cons step rest ih =>
      cases step with
      | code text comments offset =>
          rw [flushes, Bool.false_or, Bool.and_eq_true] at h
          rw [flushes, h.1, h.2, Bool.or_true, Bool.and_true]
      | prepare line => exact h
      | _ => exact ih h opened

theorem flushes_append {opened : Bool} {first second : List Step}
    (h₁ : flushes opened first = true) (h₂ : flushes false second = true) :
    flushes opened (first ++ second) = true := by
  induction first generalizing opened with
  | nil => exact flushes_of_flushes_false h₂ opened
  | cons step rest ih =>
      cases step with
      | code text comments offset =>
          rw [flushes, Bool.and_eq_true] at h₁
          rw [List.cons_append, flushes, h₁.1, ih h₁.2, Bool.and_true]
      | _ => exact ih h₁

theorem flushes_of_append {opened : Bool} {first second : List Step}
    (h : flushes opened (first ++ second) = true) : flushes opened first = true := by
  induction first generalizing opened with
  | nil => rfl
  | cons step rest ih =>
      cases step with
      | code text comments offset =>
          rw [List.cons_append, flushes, Bool.and_eq_true] at h
          rw [flushes, h.1, ih h.2, Bool.and_true]
      | _ => exact ih h

theorem flushes_of_prepare {opened : Bool} {first second : List Step} {line : UInt64}
    (h : flushes opened (first ++ .prepare line :: second) = true) :
    flushes false second = true := by
  induction first generalizing opened with
  | nil => exact h
  | cons step rest ih =>
      cases step with
      | code text comments offset =>
          rw [List.cons_append, flushes, Bool.and_eq_true] at h
          exact ih h.2
      | _ => exact ih h

end Layout

theorem Target.Emits.flushes {target : Target} {steps : List Step} (h : target.Emits steps) :
    flushes false steps = true := by
  induction h with
  | nil => rfl
  | append _ _ ih₁ ih₂ => exact flushes_append ih₁ ih₂
  | line text => rfl
  | deeper _ ih => exact flushes_append ih rfl
  | @opening dialect style _ header => cases style <;> rfl
  | @middle dialect style _ header => cases style <;> rfl
  | @closing dialect style _ closer => cases style <;> rfl

theorem walked_flushes (target : Target) :
    Walked target fun script => ∀ around, flushes false (script around).steps = true where
  pure _ _ := rfl
  bind h₁ h₂ around := by
    rw [bind_apply]
    split
    · exact flushes_append (h₁ around) (h₂ _ _)
    · exact h₁ around
  surroundings _ := rfl
  text _ _ := rfl
  declare _ _ _ := rfl
  prepare _ _ := rfl
  emit h _ := h.flushes
  reject _ _ := rfl
  begin? node h around := by
    rw [begin?]
    split
    · next inside steps hform => exact (h hform).2.flushes
    · rfl
  inScope h around := h around.pushScope
  indented className h around := flushes_append (h (around.enter className)) rfl

/-! ### What the first line of code of a turn takes -/

namespace Layout.Page

variable {unit : IndentUnit} {page : Page}

theorem rest_play_suffix (unit : IndentUnit) (page : Page) (steps : List Step) :
    (page.play unit steps).2.cursor.rest <:+ page.cursor.rest := by
  obtain ⟨taken, hshows, -⟩ := page.exists_shows_play unit steps
  exact ⟨taken, hshows.rest.symm⟩

theorem mem_rest_of_mem_rest_play (unit : IndentUnit) (page : Page) (steps : List Step)
    {record : Record} (h : record ∈ (page.play unit steps).2.cursor.rest) :
    record ∈ page.cursor.rest :=
  (rest_play_suffix unit page steps).mem h

/-- The records that are there when the first line of code is written. -/
structure Opens (unit : IndentUnit) (page : Page) (steps : List Step) (waiting : List Record) :
    Prop where
  rest : ∃ blanks, page.cursor.rest = blanks ++ waiting ∧ ∀ record ∈ blanks, record.remark = .blank
  lead : ((page.play unit steps).1.takeWhile (!·.isCode)).flatMap Line.comments =
    (Cursor.ownRun page.cursor.line.toNat waiting).filterMap (·.remark.text?)
  taken : (page.play unit steps).2.cursor.rest <:+ Comment.pastCode page.cursor.line.toNat waiting

theorem opens_code (text : String) (offset : Number.Single) (rest : List Step) :
    Opens unit page (.code text true offset :: rest) page.cursor.rest := by
  refine ⟨⟨[], rfl, by simp⟩, ?_, ?_⟩
  · have hlines : (page.play unit (.code text true offset :: rest)).1 =
        page.cursor.flush.1.map (replayed (unit.countAt page.level .zero)) ++
          (.code (unit.countAt page.level offset) text page.cursor.flush.2.takeElse.2.takeTail.1 ::
            ((page.write unit text true offset).2.play unit rest).1) :=
      List.append_assoc _ [_] _
    have hown : ∀ line ∈ page.cursor.flush.1.map (replayed (unit.countAt page.level .zero)),
        (!line.isCode) = true := by
      intro line hline
      obtain ⟨text, -, rfl⟩ := List.mem_map.mp hline
      cases text <;> rfl
    rw [hlines, List.takeWhile_append_of_pos hown,
      List.takeWhile_cons_of_neg (by simp [Line.isCode]), List.append_nil]
    exact comments_map_replayed _ _
  · rw [← Cursor.rest_takeTail_takeElse_flush]
    exact rest_play_suffix unit (page.write unit text true offset).2 rest

theorem exists_opens (unit : IndentUnit) (page : Page) {steps : List Step}
    (hwrites : writesFirst steps = true) (hflushes : flushes false steps = true) :
    ∃ waiting, Opens unit page steps waiting := by
  induction steps generalizing page with
  | nil => cases hwrites
  | cons step rest ih =>
      cases step with
      | code text comments offset =>
          rw [flushes, Bool.false_or, Bool.and_eq_true] at hflushes
          obtain ⟨rfl, -⟩ := hflushes
          exact ⟨_, opens_code text offset rest⟩
      | prepare line => cases hwrites
      | indent =>
          obtain ⟨waiting, hopens⟩ := ih (page.step unit .indent).2 hwrites hflushes
          exact ⟨waiting, hopens.rest, hopens.lead, hopens.taken⟩
      | dedent =>
          obtain ⟨waiting, hopens⟩ := ih (page.step unit .dedent).2 hwrites hflushes
          exact ⟨waiting, hopens.rest, hopens.lead, hopens.taken⟩
      | skipBlank =>
          obtain ⟨waiting, ⟨blanks, hblanks, hall⟩, hlead, htaken⟩ :=
            ih (page.step unit .skipBlank).2 hwrites hflushes
          obtain ⟨skipped, hskipped, hblank⟩ := page.cursor.exists_skipBlank
          have hline : (page.step unit .skipBlank).2.cursor.line = page.cursor.line :=
            page.cursor.line_skipBlank
          rw [hline] at hlead htaken
          refine ⟨waiting, ⟨skipped.toList ++ blanks, ?_, ?_⟩, hlead, htaken⟩
          · rw [hskipped, List.append_assoc]
            exact congrArg _ hblanks
          · intro record hrecord
            rcases List.mem_append.mp hrecord with hfirst | hmore
            · exact hblank record (by simpa using hfirst)
            · exact hall record hmore

/-- A turn that writes takes a record it has reached that holds up others, unless another such
record is in front. -/
theorem not_mem_rest_of_turn {turn : Turn} {records : List Record} {record : Record}
    (hwrites : writesFirst turn.own = true) (hflushes : flushes false turn.own = true)
    (hordered : records.Pairwise Record.Before) (hsuffix : page.cursor.rest <:+ records)
    (hline : record.line ≤ turn.stop.line) (hblocks : record.Blocks)
    (hfront : ∀ other ∈ page.cursor.rest, other.Blocks → other.Before record →
      other.Leads records record) :
    record ∉ (page.play unit turn.steps).2.cursor.rest := by
  obtain ⟨waiting, ⟨blanks, hblanks, -⟩, -, htaken⟩ := exists_opens unit
    (page.step unit (.prepare turn.stop.word)).2 hwrites hflushes
  have hwaiting : waiting <:+ page.cursor.rest := ⟨blanks, hblanks.symm⟩
  intro hmem
  refine Comment.not_mem_pastCode hordered (hwaiting.trans hsuffix) hline hblocks ?_
    (htaken.mem hmem)
  exact fun other hother => hfront other (hwaiting.mem hother)

theorem not_isCode_of_stays {steps : List Step} (hstays : ∀ step ∈ steps, step.stays = true)
    (hwrites : writesFirst steps = false) :
    ∀ line ∈ (page.play unit steps).1, line.isCode = false := by
  induction steps generalizing page with
  | nil => exact List.forall_mem_nil _
  | cons step rest ih =>
      obtain ⟨hstep, hrest⟩ := List.forall_mem_cons.mp hstays
      cases step with
      | code text comments offset => cases hwrites
      | prepare line => cases hstep
      | _ => exact ih hrest hwrites

end Layout.Page

/-! ### What the passages before a line of code take -/

/-- Whether there is a line of code in a passage. -/
def Passage.writes (passage : Passage) : Bool := passage.lines.any Line.isCode

/-- The comments of a passage that come before its first line of code. -/
def Passage.lead (passage : Passage) : List String :=
  (passage.lines.takeWhile (!·.isCode)).flatMap Line.comments

/-- A record that holds up others is taken by passages when one of them reaches it and writes, after
the records in front of it that hold it up have been taken. -/
inductive Taken (records : List Record) : List Passage → Record → Prop where
  | intro {record : Record} (before : List Passage) (passage : Passage) (after : List Passage)
      (writes : passage.writes = true) (reached : record.line ≤ passage.stop.line)
      (front : ∀ other ∈ records, other.Blocks → other.Before record → ¬other.Leads records record →
        Taken records before other) :
      Taken records (before ++ passage :: after) record

/-- Whether a record holds up a comment on a line of its own that stands above a line. -/
def Comment.Record.Delays (records : List Record) (line : Nat) (record : Record) : Prop :=
  record.Blocks ∧ ∃ own ∈ records, record.Before own ∧ own.line < line ∧
    ∃ text, own.remark = .own text

/-- A turn of a program writes its comments before its code. -/
structure Turn.Orderly (turn : Turn) : Prop extends turn.Whole where
  flushes : flushes false turn.own = true

/-- Only a turn that writes has a passage that does. -/
theorem Turn.Whole.writesFirst {turn : Turn} (hturn : turn.Whole) {unit : IndentUnit} {page : Page}
    (h : Passage.writes ⟨turn.stop, (page.play unit turn.steps).1⟩ = true) :
    writesFirst turn.own = true := by
  obtain ⟨line, hline, hcode⟩ := List.any_eq_true.mp h
  by_contra hsilent
  have hnone := Page.not_isCode_of_stays hturn.prepared (Bool.eq_false_iff.mpr hsilent) line hline
  exact Bool.false_ne_true (hnone.symm.trans hcode)

namespace Layout.Page

variable {unit : IndentUnit} {page : Page}

theorem eq_passages_of_append {turns : List Turn} {turn : Turn} {earlier : List Passage}
    {passage : Passage} (h : earlier ++ [passage] = page.passages unit (turns ++ [turn])) :
    earlier = page.passages unit turns :=
  (List.append_inj' (h.trans (passages_append turns [turn])) rfl).1

/-- What is taken by passages is not there when their turns are over. -/
theorem not_mem_rest_of_taken {turns : List Turn} (hturns : ∀ turn ∈ turns, turn.Orderly)
    (hordered : page.cursor.rest.Pairwise Record.Before) {record : Record}
    (h : Taken page.cursor.rest (page.passages unit turns) record) (hblocks : record.Blocks) :
    record ∉ (page.play unit (turns.flatMap Turn.steps)).2.cursor.rest := by
  generalize hpassages : page.passages unit turns = passages at h
  induction h generalizing turns with
  | @intro record before passage after writes reached front ih =>
      obtain ⟨first, turn, later, rfl, hfirst, rfl, -⟩ := exists_turns_of_passages_eq hpassages
      obtain rfl := eq_passages_of_append hfirst
      have hturn := hturns turn (by simp)
      rw [List.flatMap_append, List.flatMap_cons, play_append, play_append]
      refine fun hmem => ?_
      refine not_mem_rest_of_turn (hturn.writesFirst writes) hturn.flushes hordered
        (rest_play_suffix unit page _) reached hblocks (fun other hother hotherBlocks hbefore => ?_)
        (mem_rest_of_mem_rest_play unit _ _ hmem)
      by_contra hleads
      refine ih other (mem_rest_of_mem_rest_play unit page _ hother) hotherBlocks hbefore hleads
        (fun found hfound => hturns found (List.mem_append_left _ hfound)) hotherBlocks rfl hother

/-- The comments on lines of their own that are due at a turn are shown before its first line of
code, where all that could hold them up has been taken. -/
theorem exists_shown_in_time (unit : IndentUnit) (page : Page) {turns : List Turn} {turn : Turn}
    (hturns : ∀ found ∈ turns ++ [turn], found.Orderly)
    (hordered : page.cursor.rest.Pairwise Record.Before)
    (hwrites : writesFirst turn.own = true)
    (htaken : ∀ record ∈ page.cursor.rest, record.Delays page.cursor.rest turn.stop.line →
      Taken page.cursor.rest (page.passages unit turns) record) :
    let reached := (page.play unit (turns.flatMap Turn.steps)).2
    ∃ shown left, page.cursor.rest = shown ++ left ∧
      (page.play unit (turns.flatMap Turn.steps)).1.flatMap Line.comments ++
          ((reached.play unit turn.steps).1.takeWhile (!·.isCode)).flatMap Line.comments =
        shown.filterMap (·.remark.text?) ∧
      ∀ record ∈ left, ∀ text, record.remark = .own text → turn.stop.line ≤ record.line := by
  intro reached
  obtain ⟨taken, hshows, -⟩ := page.exists_shows_play unit (turns.flatMap Turn.steps)
  obtain ⟨waiting, ⟨blanks, hblanks, hblank⟩, hlead, -⟩ := exists_opens unit
    (reached.step unit (.prepare turn.stop.word)).2 hwrites (hturns turn (by simp)).flushes
  have hreached : reached.cursor.rest = blanks ++ waiting := hblanks
  refine ⟨taken ++ blanks ++ Cursor.ownRun turn.stop.line waiting,
    Comment.pastOwn turn.stop.line waiting, ?_, ?_, fun own hown text htext => ?_⟩
  · rw [hshows.rest, ← Cursor.drop_ownRun, List.append_assoc, List.append_assoc,
      Cursor.ownRun_append_drop]
    exact congrArg _ hreached
  · have hnone : blanks.filterMap (·.remark.text?) = [] :=
      List.filterMap_eq_nil_iff.mpr fun record hrecord => by rw [hblank record hrecord]; rfl
    rw [hshows.comments, List.filterMap_append, List.filterMap_append, hnone, List.append_nil]
    exact congrArg _ hlead
  · by_contra hline
    have habove : own.line < turn.stop.line := Nat.lt_of_not_le hline
    have hthere : ∀ record ∈ Comment.pastOwn turn.stop.line waiting,
        record ∈ reached.cursor.rest := fun record hrecord =>
      hreached ▸ List.mem_append_right _ ((Comment.pastOwn_sublist _ _).mem hrecord)
    have hwaiting : waiting.Pairwise Record.Before := by
      have hrest : reached.cursor.rest.Pairwise Record.Before :=
        hordered.sublist (rest_play_suffix unit page _).sublist
      rw [hreached] at hrest
      exact (List.pairwise_append.mp hrest).2.1
    -- What still holds the comment up would have been taken.
    obtain ⟨blocking, hmem, hblocks, hbefore⟩ := Comment.exists_blocks_of_mem_pastOwn hwaiting
      (Nat.le_of_lt habove) (by rw [htext]; rfl) hown
    have hdelays : blocking.Delays page.cursor.rest turn.stop.line :=
      ⟨hblocks, own, mem_rest_of_mem_rest_play unit page _ (hthere own hown), hbefore, habove,
        text, htext⟩
    refine not_mem_rest_of_taken (fun found hfound => hturns found (List.mem_append_left _ hfound))
      hordered (htaken blocking ?_ hdelays) hblocks (hthere blocking hmem)
    exact mem_rest_of_mem_rest_play unit page _ (hthere blocking hmem)

end Layout.Page

/-! ### Whole programs -/

theorem Program.turns_orderly {target : Target} {program : Program}
    (h : (program.script target .outermost).result = .ok ()) :
    ∀ turn ∈ program.turns target, turn.Orderly := by
  obtain ⟨hsteps, -, hwhole⟩ := Program.turns_spec h
  intro turn hturn
  obtain ⟨before, after, hturns⟩ := List.append_of_mem hturn
  have hflushes := (walked_flushes target).program program .outermost
  rw [hsteps, hturns, List.flatMap_append, List.flatMap_cons] at hflushes
  exact ⟨hwhole turn hturn, flushes_of_append (flushes_of_prepare hflushes)⟩

/-- **Comments on lines of their own come in time.** A passage that writes has shown, before its
first line of code, all comments on lines of their own that stand above the line of its stop in the
snippet, if the tails and lines of `else` in front of them are taken by earlier passages. -/
theorem own_comments_in_time (target : Target) (unit : IndentUnit) (program : Program)
    (source : String) (rendering : Rendering)
    (h : program.render target unit (Comment.scan source) = .ok rendering) :
    rendering.text = textOf unit target.lineComment
        ((program.passages target unit (Comment.scan source)).flatMap Passage.lines ++
          program.leftovers target unit (Comment.scan source)) ∧
      (program.passages target unit (Comment.scan source)).map Passage.stop = program.stops ∧
      ∀ earlier passage later,
        program.passages target unit (Comment.scan source) = earlier ++ passage :: later →
        passage.writes = true →
        (∀ record ∈ Comment.scan source,
          record.Delays (Comment.scan source) passage.stop.line →
          Taken (Comment.scan source) earlier record) →
        ∃ shown left, Comment.scan source = shown ++ left ∧
          earlier.flatMap Passage.comments ++ passage.lead = shown.filterMap (·.remark.text?) ∧
          ∀ record ∈ left, ∀ text, record.remark = .own text →
            passage.stop.line ≤ record.line := by
  obtain ⟨htext, hstops, -⟩ := Program.passages_spec h
  refine ⟨htext, hstops, fun earlier passage later hsplit hwrites htaken => ?_⟩
  obtain ⟨hresult, -⟩ := Program.script_of_render h
  obtain ⟨turns, turn, after, hturns, hearlier, rfl, -⟩ :=
    Page.exists_turns_of_passages_eq hsplit
  obtain rfl := Page.eq_passages_of_append hearlier
  have horderly : ∀ found ∈ turns ++ [turn], found.Orderly := fun found hfound => by
    refine Program.turns_orderly hresult found ?_
    rw [hturns, List.append_cons]
    exact List.mem_append_left _ hfound
  obtain ⟨shown, left, hscan, hshown, hleft⟩ := Page.exists_shown_in_time unit
    (Page.ofRecords (Comment.scan source)) horderly (Comment.scan_ordered source)
    ((horderly turn (by simp)).writesFirst hwrites) htaken
  refine ⟨shown, left, hscan, ?_, hleft⟩
  rw [← hshown]
  exact congrArg (· ++ _) (Page.comments_passages turns)

/-- A comment after the first statement of an `else`, whose line has a tail. -/
theorem own_comments_in_time_else :
    let program : Program := ⟨[.mk 1 (.branch (.name "a") [.mk 2 (.expr (.name "b"))]
      [.mk 4 (.expr (.name "c")), .mk 6 (.expr (.name "d"))])]⟩
    let records := Comment.scan "if a:\n    b\nelse:\n    c  # t\n    # own\n    d\n"
    ∃ rendering earlier passage, program.render .cpp .standard records = .ok rendering ∧
      program.passages .cpp .standard records = earlier ++ [passage] ∧
      passage.stop.line = 6 ∧ passage.writes = true ∧
      (∀ record ∈ records, record.Delays records 6 → Taken records earlier record) ∧
      ∃ shown left, records = shown ++ left ∧
        earlier.flatMap Passage.comments ++ passage.lead = shown.filterMap (·.remark.text?) ∧
        ∀ record ∈ left, ∀ text, record.remark = .own text → 6 ≤ record.line := by
  intro program records
  have hrecords : records = [⟨3, .elseLine⟩, ⟨4, .tail "t"⟩, ⟨5, .own "own"⟩] := by decide
  have hpassages : (program.passages .cpp .standard records).map
      (fun passage => (passage.stop.line, passage.writes)) =
        [(1, true), (2, true), (4, true), (4, true), (6, true)] := by decide
  obtain ⟨-, -, hshown⟩ := own_comments_in_time .cpp .standard program _ _ rfl
  simp only [List.map_eq_cons_iff, List.map_eq_nil_iff, Prod.mk.injEq] at hpassages
  obtain ⟨first, _, hfirst, -, second, _, rfl, -, otherwise, _, rfl, ⟨hreached, hwrites⟩,
    third, _, rfl, -, last, _, rfl, ⟨hline, hlast⟩, rfl⟩ := hpassages
  have hblocks : ∀ record ∈ records, record.Blocks →
      record = ⟨3, .elseLine⟩ ∨ record = ⟨4, .tail "t"⟩ := by
    rw [hrecords]
    decide
  have htaken : ∀ record ∈ records, record.Delays records 6 →
      Taken records [first, second, otherwise, third] record := by
    intro record hrecord hdelays
    have hrecordBlocks := hblocks record hrecord hdelays.1
    have hbelow : record.line ≤ otherwise.stop.line := by
      rw [hreached]
      rcases hrecordBlocks with rfl | rfl <;> decide
    refine .intro [first, second] otherwise [third] hwrites hbelow
      fun other hother hotherBlocks hbefore hleads => absurd ?_ hleads
    rcases hrecordBlocks with rfl | rfl <;> rcases hblocks other hother hotherBlocks with rfl | rfl
    · exact absurd hbefore (by decide)
    · exact absurd hbefore (by decide)
    · exact ⟨rfl, rfl, [], [⟨5, .own "own"⟩], hrecords.symm⟩
    · exact absurd hbefore (by decide)
  have hintime := hshown [first, second, otherwise, third] last [] hfirst hlast (hline ▸ htaken)
  exact ⟨_, _, _, rfl, hfirst, hline, hlast, htaken, hline ▸ hintime⟩

/-- The parts of `pass` and `x = 1`, with the comments behind and between them. -/
def lateTree : Source.Tree :=
  ⟨.construct "module" 0 "pass  # t\n# c\nx = 1\n"
    [.construct "pass_statement" 0 "pass" [.token 0 "pass"], .construct "comment" 0 "# t" [],
      .construct "comment" 1 "# c" [],
      .construct "assignment" 2 "x = 1"
        [(Source.Node.construct "identifier" 2 "x" []).filling "left", .token 2 "=",
          (Source.Node.construct "integer" 2 "1" []).filling "right"]], false⟩

/-- The tail of a `pass` is taken by no passage of its own, and the comment behind it is late. -/
theorem own_comment_late :
    let records := Comment.scan "pass  # t\n# c\nx = 1\n"
    ∃ program rendering earlier passage,
      lateTree.read = .ok program ∧
      program.render .cpp .standard records = .ok rendering ∧
      rendering.text = "x = 1; // t\n// c\n" ∧
      program.passages .cpp .standard records = earlier ++ [passage] ∧
      passage.stop.line = 3 ∧ passage.writes = true ∧ ⟨2, .own "c"⟩ ∈ records ∧
      earlier.flatMap Passage.comments ++ passage.lead = [] := by
  intro records
  let program : Program := ⟨[.mk 1 .pass, .mk 3 (.assign [.name "x"] (.constant (.int 1)))]⟩
  have hprogram : lateTree.read = .ok program := by cbv
  have hpassages : (program.passages .cpp .standard records).map
      (fun passage => (passage.stop.line, passage.writes, passage.comments, passage.lead)) =
        [(1, false, [], []), (3, true, ["t"], [])] := by decide
  simp only [List.map_eq_cons_iff, List.map_eq_nil_iff, Prod.mk.injEq] at hpassages
  obtain ⟨first, _, hfirst, ⟨-, -, hnone, -⟩, last, _, rfl, ⟨hline, hwrites, -, hlead⟩, rfl⟩ :=
    hpassages
  refine ⟨program, _, [first], last, hprogram, rfl, by decide, hfirst, hline, hwrites, by decide, ?_⟩
  rw [List.flatMap_singleton, hnone, hlead, List.append_nil]

end Snippet
