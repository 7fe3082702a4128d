import Snippet.Proofs.Queue
import Snippet.Proofs.Weaving

/-!
# What one line of code takes

A line of code replays whole lines of comments, then passes over one `else`, then takes one tail. It
looks at the record in front only, so it could stop too early. But the record that it stops at fits
behind none of those it has taken, and so no longer run of records would do.
-/

namespace Snippet

open Comment (Cursor Record Remark)
open Layout
open Number (Single)

/-! ### What an operation takes and where it stops -/

namespace Comment

namespace Remark

variable {remark : Remark}

theorem isElse_alone (h : remark.isElse = true) :
    remark.isWholeLine = false ∧ remark.isTail = false := by
  cases remark with
  | elseLine => exact ⟨rfl, rfl⟩
  | _ => cases h

theorem isTail_alone (h : remark.isTail = true) :
    remark.isWholeLine = false ∧ remark.isElse = false := by
  cases remark with
  | tail text => exact ⟨rfl, rfl⟩
  | _ => cases h

theorem isWholeLine_of_others (helse : remark.isElse = false) (htail : remark.isTail = false) :
    remark.isWholeLine = true := by
  cases remark with
  | elseLine => cases helse
  | tail text => cases htail
  | _ => rfl

end Remark

namespace Cursor

/-- The records that have been reached, up to the first one that has not. -/
def due (cursor : Cursor) : List Record := cursor.rest.takeWhile (·.line ≤ cursor.line.toNat)

/-- The cursor behind a number of records. -/
def past (cursor : Cursor) (count : Nat) : Cursor :=
  { cursor with consumed := cursor.consumed + count, rest := cursor.rest.drop count }

/-- A cursor goes on to `next` by taking records that have been reached. -/
structure Takes (cursor : Cursor) (taken : List Record) (next : Cursor) : Prop where
  rest : cursor.rest = taken ++ next.rest
  consumed : next.consumed = cursor.consumed + taken.length
  line : next.line = cursor.line
  reached : ∀ record ∈ taken, record.line ≤ cursor.line.toNat

/-- The record in front is not of a kind, or it has not been reached. -/
def Stops (cursor : Cursor) (kind : Remark → Bool) : Prop :=
  ∀ record ∈ cursor.rest.head?, record.line ≤ cursor.line.toNat → kind record.remark = false

namespace Takes

variable {cursor between next : Cursor} {first second taken : List Record}

theorem none (cursor : Cursor) : cursor.Takes [] cursor := ⟨rfl, rfl, rfl, by simp⟩

theorem trans (h₁ : cursor.Takes first between) (h₂ : between.Takes second next) :
    cursor.Takes (first ++ second) next where
  rest := by rw [h₁.rest, h₂.rest, List.append_assoc]
  consumed := by rw [h₂.consumed, h₁.consumed, List.length_append, Nat.add_assoc]
  line := h₂.line.trans h₁.line
  reached := by
    intro record hrecord
    rcases List.mem_append.mp hrecord with hfirst | hsecond
    · exact h₁.reached record hfirst
    · exact h₁.line ▸ h₂.reached record hsecond

theorem due_eq (h : cursor.Takes taken next) : cursor.due = taken ++ next.due := by
  unfold due
  rw [h.rest, h.line, List.takeWhile_append_of_pos fun record hrecord =>
    decide_eq_true (h.reached record hrecord)]

theorem eq_past (h : cursor.Takes taken next) : next = cursor.past taken.length := by
  obtain ⟨consumed, rest, line⟩ := next
  obtain ⟨hrest, hconsumed, hline, -⟩ := h
  dsimp only at hrest hconsumed hline
  rw [past, hrest, List.drop_left, hconsumed, hline]

end Takes

theorem Stops.of_takes_nil {cursor next : Cursor} {kind : Remark → Bool} (h : cursor.Stops kind)
    (htakes : cursor.Takes [] next) : next.Stops kind := by
  intro record hrecord hline
  rw [htakes.line] at hline
  apply h record _ hline
  rw [htakes.rest]
  exact hrecord

theorem exists_takes_advance {cursor : Cursor} {remark : Remark}
    (h : cursor.pending = some remark) :
    ∃ record, cursor.Takes [record] cursor.advance ∧ record.remark = remark := by
  obtain ⟨consumed, rest, line⟩ := cursor
  cases rest with
  | nil => cases h
  | cons record rest =>
      obtain ⟨first, hrest, hline, hremark⟩ := exists_of_pending h
      obtain rfl := (List.cons.inj hrest).1
      exact ⟨record, ⟨rfl, rfl, rfl, by simpa using hline⟩, hremark⟩

theorem stops_of_pending {cursor : Cursor} {kind : Remark → Bool}
    (h : ∀ remark, cursor.pending = some remark → kind remark = false) : cursor.Stops kind := by
  intro record hrecord hline
  apply h
  obtain ⟨rest, hrest⟩ := List.head?_eq_some_iff.mp hrecord
  rw [pending, hrest]
  exact if_pos hline

theorem of_due_eq_cons {cursor : Cursor} {record : Record} {rest : List Record}
    (h : cursor.due = record :: rest) :
    record ∈ cursor.rest.head? ∧ record.line ≤ cursor.line.toNat := by
  unfold due at h
  cases hrest : cursor.rest with
  | nil =>
      rw [hrest] at h
      cases h
  | cons first later =>
      rw [hrest, List.takeWhile_cons] at h
      split at h
      · next hline =>
          obtain rfl := (List.cons.inj h).1
          exact ⟨rfl, of_decide_eq_true hline⟩
      · cases h

theorem takes_flush (cursor : Cursor) :
    cursor.Takes (ownRun cursor.line.toNat cursor.rest) cursor.flush.2 :=
  ⟨(ownRun_append_drop _ _).symm, rfl, rfl, fun _ hrecord => line_le_of_mem_ownRun hrecord⟩

theorem stops_flush (cursor : Cursor) : cursor.flush.2.Stops Remark.isWholeLine := by
  intro record hrecord hline
  rw [rest_flush] at hrecord
  rw [line_flush] at hline
  revert hrecord
  induction cursor.rest with
  | nil => exact fun hrecord => by cases hrecord
  | cons first rest ih =>
      rw [pastOwn]
      split
      · exact ih
      · next hfirst =>
          intro hrecord
          obtain rfl := Option.some.inj hrecord
          exact Bool.eq_false_iff.mpr fun hwhole => hfirst ⟨hline, hwhole⟩

/-- Takes the record in front when it has been reached and is of a kind. -/
def takeOne (kind : Remark → Bool) (cursor : Cursor) : Cursor :=
  if cursor.pending.any kind then cursor.advance else cursor

theorem takeElse_eq (cursor : Cursor) : cursor.takeElse.2 = cursor.takeOne Remark.isElse := by
  unfold takeElse takeOne
  cases cursor.pending with
  | none => rfl
  | some remark => cases remark <;> rfl

theorem takeTail_eq (cursor : Cursor) :
    cursor.takeTail =
      ((cursor.pending.filter Remark.isTail).bind Remark.text?, cursor.takeOne Remark.isTail) := by
  unfold takeTail takeOne
  cases cursor.pending with
  | none => rfl
  | some remark => cases remark <;> rfl

theorem exists_takes_takeOne (kind : Remark → Bool) (cursor : Cursor) :
    ∃ taken : Option Record, cursor.Takes taken.toList (cursor.takeOne kind) ∧
      taken.map Record.remark = cursor.pending.filter kind ∧
      (∀ record ∈ taken, kind record.remark = true) ∧
      (taken = none → (cursor.takeOne kind).Stops kind) := by
  by_cases h : cursor.pending.any kind = true
  · obtain ⟨remark, hremark, hkind⟩ := (Option.any_eq_true kind cursor.pending).mp h
    obtain ⟨record, htakes, rfl⟩ := exists_takes_advance hremark
    have hnext : cursor.takeOne kind = cursor.advance := if_pos h
    refine ⟨some record, hnext ▸ htakes, ?_, ?_, fun hnone => by cases hnone⟩
    · rw [hremark, Option.filter_some, if_pos hkind]
      rfl
    · rintro _ ⟨⟩
      exact hkind
  · have hnext : cursor.takeOne kind = cursor := if_neg h
    have hother : ∀ remark, cursor.pending = some remark → kind remark = false := by
      intro remark hremark
      rw [hremark] at h
      exact Bool.eq_false_iff.mpr h
    rw [hnext]
    refine ⟨none, Takes.none cursor, ?_, by simp, fun _ => stops_of_pending hother⟩
    cases hpending : cursor.pending with
    | none => rfl
    | some remark =>
        rw [Option.filter_some, if_neg (Bool.eq_false_iff.mp (hother remark hpending))]
        rfl

end Cursor

end Comment

/-! ### Handfuls -/

namespace Layout

/-- Records as one line of code can take them. -/
structure Handful where
  own : List Record
  marker : Option Record
  tail : Option Record

namespace Handful

def records (handful : Handful) : List Record :=
  handful.own ++ (handful.marker.toList ++ handful.tail.toList)

/-- Whole lines, none of them where they are not asked for, then at most one `else`, then at most
one tail. -/
structure Fits (comments : Bool) (handful : Handful) : Prop where
  own : ∀ record ∈ handful.own, record.remark.isWholeLine = true
  own_eq_nil : comments = false → handful.own = []
  marker : ∀ record ∈ handful.marker, record.remark.isElse = true
  tail : ∀ record ∈ handful.tail, record.remark.isTail = true

/-- A line of code with the records it takes: each whole line on a line of its own, and the tail
behind the code. -/
def text (unit : IndentUnit) (spell : String → String) (level : Nat) (code : String)
    (offset : Single) (handful : Handful) : String :=
  String.join (handful.own.map fun record =>
      OwnLine.text unit spell ⟨unit.countAt level .zero, record⟩) ++
    (Line.indented unit (unit.countAt level offset) code ++
      (Moment.tailText spell handful.tail ++ "\n"))

/-- Whether a record of one kind can come before a record of another. -/
def Precedes (first second : Record) : Prop :=
  first.remark.isWholeLine = true ∨ first.remark.isElse = true ∧ second.remark.isTail = true

variable {comments : Bool} {handful other : Handful}

theorem Fits.pairwise (h : handful.Fits comments) : handful.records.Pairwise Precedes := by
  refine List.pairwise_append.mpr ⟨?_, ?_, fun first hfirst second _ => .inl (h.own first hfirst)⟩
  · exact List.pairwise_of_forall_mem_list fun first hfirst second _ => .inl (h.own first hfirst)
  · refine List.pairwise_append.mpr ⟨by cases handful.marker <;> simp,
      by cases handful.tail <;> simp, fun first hfirst second hsecond => .inr ⟨?_, ?_⟩⟩
    · exact h.marker first (Option.mem_toList.mp hfirst)
    · exact h.tail second (Option.mem_toList.mp hsecond)

theorem Fits.isWholeLine_eq_false (h : handful.Fits false) {record : Record}
    (hrecord : record ∈ handful.records) : record.remark.isWholeLine = false := by
  rw [records, h.own_eq_nil rfl, List.nil_append] at hrecord
  rcases List.mem_append.mp hrecord with hmarker | htail
  · exact (Remark.isElse_alone (h.marker record (Option.mem_toList.mp hmarker))).1
  · exact (Remark.isTail_alone (h.tail record (Option.mem_toList.mp htail))).1

/-- Where a handful ends: nothing that still fits is in front. -/
structure Ends (comments : Bool) (handful : Handful) (next : Cursor) : Prop where
  own : comments = true → handful.marker = none → handful.tail = none →
    next.Stops Remark.isWholeLine
  marker : handful.marker = none → handful.tail = none → next.Stops Remark.isElse
  tail : handful.tail = none → next.Stops Remark.isTail

theorem Ends.isWholeLine {next : Cursor} {record : Record} (hends : handful.Ends comments next)
    (h : handful.Fits comments) (hfront : record ∈ next.rest.head?)
    (hline : record.line ≤ next.line.toNat)
    (hbehind : ∀ first ∈ handful.records, Precedes first record) :
    comments = false ∧ record.remark.isWholeLine = true := by
  have htail : handful.tail = none := by
    apply Option.eq_none_iff_forall_not_mem.mpr
    intro tail hmem
    obtain ⟨hwhole, helse⟩ := Remark.isTail_alone (h.tail tail hmem)
    rcases hbehind tail (by simp [records, Option.mem_def.mp hmem]) with hfirst | ⟨hfirst, -⟩
    · exact Bool.false_ne_true (hwhole.symm.trans hfirst)
    · exact Bool.false_ne_true (helse.symm.trans hfirst)
  have hnoTail := hends.tail htail record hfront hline
  have hmarker : handful.marker = none := by
    apply Option.eq_none_iff_forall_not_mem.mpr
    intro marker hmem
    obtain ⟨hwhole, -⟩ := Remark.isElse_alone (h.marker marker hmem)
    rcases hbehind marker (by simp [records, Option.mem_def.mp hmem]) with hfirst | ⟨-, htailed⟩
    · exact Bool.false_ne_true (hwhole.symm.trans hfirst)
    · exact Bool.false_ne_true (hnoTail.symm.trans htailed)
  have hnoElse := hends.marker hmarker htail record hfront hline
  have hwhole := Remark.isWholeLine_of_others hnoElse hnoTail
  refine ⟨Bool.eq_false_iff.mpr fun hcomments => ?_, hwhole⟩
  have hnoOwn := hends.own hcomments hmarker htail record hfront hline
  exact Bool.false_ne_true (hnoOwn.symm.trans hwhole)

/-- A handful that ends where nothing more fits is the longest one. -/
theorem Ends.prefix_of_prefix_due {cursor next : Cursor} (hends : handful.Ends comments next)
    (h : handful.Fits comments) (htakes : cursor.Takes handful.records next)
    (hother : other.Fits comments) (hdue : other.records <+: cursor.due) :
    other.records <+: handful.records := by
  have hsplit := htakes.due_eq
  rcases List.prefix_or_prefix_of_prefix hdue ⟨next.due, hsplit.symm⟩ with hshort | ⟨more, hmore⟩
  · exact hshort
  · cases more with
    | nil => exact ⟨[], by rw [List.append_nil, ← hmore, List.append_nil]⟩
    | cons record more =>
        exfalso
        -- The next record of the other handful is in front, behind all that were taken.
        obtain ⟨later, hlater⟩ := hdue
        rw [← hmore, List.append_assoc, hsplit] at hlater
        obtain ⟨hfront, hline⟩ := Cursor.of_due_eq_cons (List.append_cancel_left hlater).symm
        have hpairwise := hother.pairwise
        rw [← hmore] at hpairwise
        have hbehind : ∀ first ∈ handful.records, Precedes first record := fun first hfirst =>
          (List.pairwise_append.mp hpairwise).2.2 first hfirst record List.mem_cons_self
        obtain ⟨rfl, hwhole⟩ := hends.isWholeLine h hfront hline hbehind
        have hmem : record ∈ other.records := by
          rw [← hmore]
          exact List.mem_append_right _ List.mem_cons_self
        exact Bool.false_ne_true ((hother.isWholeLine_eq_false hmem).symm.trans hwhole)

end Handful

/-- The records that one line of code takes off a cursor, and what is answered for them. -/
theorem Handful.exists_takes (cursor : Cursor) (comments : Bool) :
    let flushed := if comments then cursor.flush else ([], cursor)
    let answer := flushed.2.takeElse.2.takeTail
    ∃ handful : Handful, handful.Fits comments ∧ handful.Ends comments answer.2 ∧
      cursor.Takes handful.records answer.2 ∧ flushed.1 = handful.own.map (·.remark.text?) ∧
        answer.1 = handful.tail.bind (·.remark.text?) := by
  intro flushed answer
  obtain ⟨own, htaken, htexts, hwhole, hnil, hown⟩ : ∃ own : List Record,
      cursor.Takes own flushed.2 ∧ flushed.1 = own.map (·.remark.text?) ∧
        (∀ record ∈ own, record.remark.isWholeLine = true) ∧ (comments = false → own = []) ∧
          (comments = true → flushed.2.Stops Remark.isWholeLine) := by
    cases comments with
    | false => exact ⟨[], .none cursor, rfl, by simp, fun _ => rfl, fun h => absurd h (by decide)⟩
    | true =>
        exact ⟨_, cursor.takes_flush, rfl, fun _ h => Cursor.isWholeLine_of_mem_ownRun h,
          fun h => absurd h (by decide), fun _ => cursor.stops_flush⟩
  have hanswer : answer = _ := Cursor.takeTail_eq _
  rw [Cursor.takeElse_eq] at hanswer
  obtain ⟨marker, hmarked, -, helse, hmarker⟩ := flushed.2.exists_takes_takeOne Remark.isElse
  obtain ⟨tail, htailed, hremark, htail, hlast⟩ :=
    (flushed.2.takeOne Remark.isElse).exists_takes_takeOne Remark.isTail
  have htext : answer.1 = tail.bind (·.remark.text?) := by
    rw [hanswer, ← hremark, Option.bind_map]
    rfl
  have hnext : answer.2 = (flushed.2.takeOne Remark.isElse).takeOne Remark.isTail :=
    congrArg Prod.snd hanswer
  rw [hnext]
  refine ⟨⟨own, marker, tail⟩, ⟨hwhole, hnil, helse, htail⟩, ⟨?_, ?_, hlast⟩,
    htaken.trans (hmarked.trans htailed), htexts, htext⟩
  · intro hcomments hnoMarker hnoTail
    dsimp only at hnoMarker hnoTail
    subst hnoMarker hnoTail
    exact (hown hcomments).of_takes_nil (hmarked.trans htailed)
  · intro hnoMarker hnoTail
    dsimp only at hnoMarker hnoTail
    subst hnoTail
    exact (hmarker hnoMarker).of_takes_nil htailed

/-- **What one line of code takes.** Of the records that have been reached it takes the longest run
of whole lines, at most one `else` and at most one tail. The whole lines are taken one after another,
until none is in front. Each is written on a line of its own, then comes the code with the tail behind
it, and everything else is left as it was. -/
theorem write_takes_longest (target : Target) (unit : IndentUnit) (page : Page) (code : String)
    (comments : Bool) (offset : Single) :
    ∃ handful : Handful, handful.Fits comments ∧ handful.records <+: page.cursor.due ∧
      (∀ other : Handful, other.Fits comments → other.records <+: page.cursor.due →
        other.records <+: handful.records) ∧
      (comments = true → ∃ flushed,
        page.cursor.TakesOwn (handful.own.map (·.remark.text?)) flushed ∧
          (page.write unit code comments offset).2.cursor = flushed.takeElse.2.takeTail.2) ∧
      (page.write unit code comments offset).2 =
        { page with cursor := page.cursor.past handful.records.length } ∧
      ∀ written : List Line,
        textOf unit target.lineComment (written ++ (page.write unit code comments offset).1) =
          textOf unit target.lineComment written ++
            handful.text unit target.lineComment page.level code offset := by
  obtain ⟨handful, hfits, hends, htakes, htexts, htail⟩ := Handful.exists_takes page.cursor comments
  refine ⟨handful, hfits, ⟨_, htakes.due_eq.symm⟩,
    fun other hother hdue => hends.prefix_of_prefix_due hfits htakes hother hdue, ?_, ?_, ?_⟩
  · rintro rfl
    refine ⟨page.cursor.flush.2, ?_, rfl⟩
    rw [← htexts]
    exact page.cursor.takesOwn_flush
  · rw [← htakes.eq_past]
    rfl
  · intro written
    rw [textOf_append]
    unfold Page.write Handful.text
    dsimp only
    rw [htexts, htail, textOf_append, textOf_map_replayed, textOf_singleton, text_code,
      List.map_map]
    rfl

end Layout

end Snippet
