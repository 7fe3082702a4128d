import Snippet.Comment.Record

namespace Snippet.Comment

/-- A position in the records of a snippet: how many have been replayed and which are left, and the
source line of the code being written. -/
structure Cursor where
  consumed : Nat
  rest : List Record
  line : UInt64
deriving DecidableEq, Repr

namespace Cursor

def ofRecords (records : List Record) : Cursor := ⟨0, records, 0⟩

def isExhausted (cursor : Cursor) : Bool := cursor.rest.isEmpty

def prepare (cursor : Cursor) (line : UInt64) : Cursor := { cursor with line }

/-- The next record, when its line has been reached. -/
def pending (cursor : Cursor) : Option Remark :=
  match cursor.rest with
  | [] => none
  | record :: _ => if record.line ≤ cursor.line.toNat then some record.remark else none

def advance (cursor : Cursor) : Cursor :=
  match cursor.rest with
  | [] => cursor
  | _ :: rest => { cursor with consumed := cursor.consumed + 1, rest }

/-- Takes a pending whole-line record; its text is absent for a blank line. -/
def nextOwn (cursor : Cursor) : Option (Option String) × Cursor :=
  match cursor.pending with
  | some .blank => (some none, cursor.advance)
  | some (.own text) => (some (some text), cursor.advance)
  | _ => (none, cursor)

def takeElse (cursor : Cursor) : Bool × Cursor :=
  match cursor.pending with
  | some .elseLine => (true, cursor.advance)
  | _ => (false, cursor)

def takeTail (cursor : Cursor) : Option String × Cursor :=
  match cursor.pending with
  | some (.tail text) => (some text, cursor.advance)
  | _ => (none, cursor)

/-- Passes over a blank line that has been reached or comes right after the current line. There is
nothing after the greatest line: the sum wraps around to zero, or stops a build that checks for it. -/
def skipBlank (cursor : Cursor) : Cursor :=
  match cursor.rest with
  | record :: _ =>
    if record.line ≤ (cursor.line + 1).toNat ∧ record.remark = .blank then cursor.advance else cursor
  | [] => cursor

def drain (cursor : Cursor) : List Record × Cursor :=
  (cursor.rest, { cursor with consumed := cursor.consumed + cursor.rest.length, rest := [] })

/-- The leading whole-line records that have been reached. -/
def ownRun (line : Nat) : List Record → List Record
  | [] => []
  | record :: rest =>
    if record.line ≤ line ∧ record.remark.isWholeLine then record :: ownRun line rest else []

/-- Takes the whole-line records that are pending one after another. -/
def flush (cursor : Cursor) : List (Option String) × Cursor :=
  let taken := ownRun cursor.line.toNat cursor.rest
  (taken.map (·.remark.text?),
    { cursor with
      consumed := cursor.consumed + taken.length
      rest := cursor.rest.drop taken.length })

end Cursor

end Snippet.Comment
