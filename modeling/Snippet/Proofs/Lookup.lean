import Mathlib
import Snippet.Proofs.Balance

/-!
# Lookup is lexical

What a stack of scopes answers is settled by the operations on it alone. A push opens a scope and the
pop that matches it closes the scope again; a pop without a match finds only the outermost scope and
does nothing. A declaration belongs to the scope that the operations before it have come back to. So
the scopes that are open are suffixes of the history, the inner ones shorter, and the name is looked
up in the shortest that declares it. The invariant of a run numbers the open scopes from the inside:
the scope at a place of the stack has as many open scopes inside it as its place says.
-/

namespace Snippet.Render.ScopeStack

/-! ### Operations and the scopes they open -/

inductive Operation where
  | push
  | pop
  | declare (name type : String)
deriving DecidableEq, Repr

def perform (scopes : ScopeStack) : Operation → ScopeStack
  | .push => scopes.push
  | .pop => scopes.pop
  | .declare name type => scopes.declare name type

def after (scopes : ScopeStack) (operations : List Operation) : ScopeStack :=
  operations.foldl perform scopes

/-- Operations that come back to the scope they start in. Each push has its pop; operations that start
in the outermost scope may have pops besides, with nothing to leave. -/
inductive Returns : Bool → List Operation → Prop where
  | nil (outermost : Bool) : Returns outermost []
  | declare {outermost : Bool} {rest : List Operation} (name type : String)
      (hrest : Returns outermost rest) : Returns outermost (.declare name type :: rest)
  | block {outermost : Bool} {inside rest : List Operation} (hinside : Returns false inside)
      (hrest : Returns outermost rest) : Returns outermost (.push :: (inside ++ .pop :: rest))
  | surplus {rest : List Operation} (hrest : Returns true rest) : Returns true (.pop :: rest)

/-- A scope by the operations since it was opened. -/
structure Scope where
  outermost : Bool
  since : List Operation
deriving DecidableEq, Repr

namespace Scope

/-- The operation at a place declares a name, and those before it have come back to the scope. -/
def Declares (scope : Scope) (place : Nat) (name type : String) : Prop :=
  scope.since[place]? = some (.declare name type) ∧
    Returns scope.outermost (scope.since.take place)

/-- The last declaration of a name in a scope gives it the type. -/
def Latest (scope : Scope) (name type : String) : Prop :=
  ∃ place, scope.Declares place name type ∧
    ∀ other otherType, scope.Declares other name otherType → other ≤ place

end Scope

/-- The scopes that are open after a history: the outermost one, and those after a push that is not
matched by a pop. -/
inductive Live (history : List Operation) : Scope → Prop where
  | outermost : Live history ⟨true, history⟩
  | opened {before since : List Operation} (heq : history = before ++ .push :: since)
      (hopen : ∀ inside rest, since = inside ++ .pop :: rest → ¬ Returns false inside) :
      Live history ⟨false, since⟩

/-- A scope that is open declares the name. -/
def InSight (history : List Operation) (name : String) : Prop :=
  ∃ scope place type, Live history scope ∧ scope.Declares place name type

/-- The type of a name is that of its latest declaration in the innermost open scope that declares
it. -/
def Resolves (history : List Operation) (name type : String) : Prop :=
  ∃ scope, Live history scope ∧ scope.Latest name type ∧
    ∀ inner, Live history inner → inner.since.length < scope.since.length →
      ∀ place innerType, ¬ inner.Declares place name innerType

/-! ### Counting the scopes inside a scope -/

/-- How many scopes are open inside a scope after one more operation, unless it leaves the scope
itself. The outermost scope is never left. -/
def nestedStep (outermost : Bool) : Nat → Operation → Option Nat
  | count, .push => some (count + 1)
  | count, .declare _ _ => some count
  | count + 1, .pop => some count
  | 0, .pop => if outermost then some 0 else none

def nested (outermost : Bool) (count : Nat) (operations : List Operation) : Option Nat :=
  operations.foldlM (nestedStep outermost) count

theorem nested_cons (outermost : Bool) (count : Nat) (operation : Operation)
    (rest : List Operation) :
    nested outermost count (operation :: rest) =
      (nestedStep outermost count operation).bind (nested outermost · rest) :=
  List.foldlM_cons ..

theorem nested_append (outermost : Bool) (count : Nat) (first second : List Operation) :
    nested outermost count (first ++ second) =
      (nested outermost count first).bind (nested outermost · second) :=
  List.foldlM_append ..

theorem nested_singleton (outermost : Bool) (count : Nat) (operation : Operation) :
    nested outermost count [operation] = nestedStep outermost count operation := by
  rw [nested_cons]
  cases nestedStep outermost count operation <;> rfl

/-- Operations that come back leave the count as it is, wherever they stand. -/
theorem Returns.nested_eq {outermost within : Bool} {operations : List Operation}
    (h : Returns outermost operations) {count : Nat}
    (hground : outermost = true → within = true ∧ count = 0) :
    nested within count operations = some count := by
  induction h generalizing count with
  | nil => rfl
  | declare name type _ ih =>
      rw [nested_cons]
      exact ih hground
  | block _ _ ihInside ihRest =>
      have hinside : nested within (count + 1) _ = some (count + 1) := ihInside (by simp)
      rw [nested_cons, nestedStep, Option.bind_some, nested_append, hinside, Option.bind_some,
        nested_cons]
      exact ihRest hground
  | surplus _ ih =>
      obtain ⟨rfl, rfl⟩ := hground rfl
      rw [nested_cons]
      exact ih hground

/-- When fewer scopes are open than before, the innermost of those before has been left. -/
theorem exists_leave {within : Bool} {count last : Nat} {operations : List Operation}
    (h : nested within (count + 1) operations = some last) (hlast : last ≤ count) :
    ∃ inside rest, Returns false inside ∧ operations = inside ++ .pop :: rest ∧
      nested within count rest = some last := by
  induction hlength : operations.length using Nat.strong_induction_on
    generalizing operations count with
  | _ length ih =>
    cases operations with
    | nil =>
        obtain rfl : count + 1 = last := Option.some.inj h
        omega
    | cons operation rest =>
        rw [nested_cons] at h
        cases operation with
        | declare name type =>
            obtain ⟨inside, more, hinside, rfl, hmore⟩ :=
              ih rest.length (by simp [← hlength]) h hlast rfl
            exact ⟨_, more, hinside.declare name type, rfl, hmore⟩
        | pop => exact ⟨[], rest, .nil false, rfl, h⟩
        | push =>
            -- The scope that opens here is left first, and then the one that is looked for.
            obtain ⟨first, between, hfirst, rfl, hbetween⟩ :=
              ih rest.length (by simp [← hlength]) h (by omega) rfl
            obtain ⟨second, more, hsecond, rfl, hmore⟩ :=
              ih between.length (by simp [← hlength]; omega) hbetween hlast rfl
            exact ⟨_, more, hfirst.block hsecond, by simp, hmore⟩

theorem returns_of_nested {outermost : Bool} {operations : List Operation}
    (h : nested outermost 0 operations = some 0) : Returns outermost operations := by
  induction hlength : operations.length using Nat.strong_induction_on generalizing operations with
  | _ length ih =>
    cases operations with
    | nil => exact .nil outermost
    | cons operation rest =>
        rw [nested_cons] at h
        cases operation with
        | declare name type => exact .declare name type (ih rest.length (by simp [← hlength]) h rfl)
        | pop =>
            cases outermost with
            | false => cases h
            | true => exact .surplus (ih rest.length (by simp [← hlength]) h rfl)
        | push =>
            obtain ⟨inside, more, hinside, rfl, hmore⟩ := exists_leave h le_rfl
            exact hinside.block (ih more.length (by simp [← hlength]; omega) hmore rfl)

theorem returns_iff {outermost : Bool} {operations : List Operation} :
    Returns outermost operations ↔ nested outermost 0 operations = some 0 :=
  ⟨fun h => h.nested_eq fun htrue => ⟨htrue, rfl⟩, returns_of_nested⟩

instance (outermost : Bool) (operations : List Operation) :
    Decidable (Returns outermost operations) :=
  decidable_of_iff _ returns_iff.symm

/-- A count that is none tells of a pop that leaves the scope itself. -/
theorem exists_leave_of_nested_eq_none {operations : List Operation}
    (h : nested false 0 operations = none) :
    ∃ inside rest, operations = inside ++ .pop :: rest ∧ Returns false inside := by
  induction operations using List.reverseRecOn with
  | nil => cases h
  | append_singleton before operation ih =>
      rw [nested_append] at h
      cases hbefore : nested false 0 before with
      | none =>
          obtain ⟨inside, rest, rfl, hinside⟩ := ih hbefore
          exact ⟨inside, rest ++ [operation], by simp, hinside⟩
      | some count =>
          rw [hbefore, Option.bind_some, nested_singleton] at h
          cases operation with
          | push => cases h
          | declare name type => cases h
          | pop =>
              cases count with
              | zero => exact ⟨before, [], rfl, returns_of_nested hbefore⟩
              | succ count => cases h

theorem nested_leave {inside : List Operation} (h : Returns false inside) (rest : List Operation) :
    nested false 0 (inside ++ .pop :: rest) = none := by
  rw [nested_append, returns_iff.mp h, Option.bind_some, nested_cons]
  rfl

theorem nested_true_ne_none (count : Nat) (operations : List Operation) :
    nested true count operations ≠ none := by
  induction operations generalizing count with
  | nil => simp [nested]
  | cons operation rest ih =>
      rw [nested_cons]
      cases operation with
      | push => exact ih (count + 1)
      | declare name type => exact ih count
      | pop =>
          cases count with
          | zero => exact ih 0
          | succ count => exact ih count

/-- Scopes that are open before a scope is opened stay open as long as it does. -/
theorem nested_add {count last : Nat} {operations : List Operation}
    (h : nested false count operations = some last) (within : Bool) (around : Nat) :
    nested within (count + around) operations = some (last + around) := by
  induction operations generalizing count with
  | nil =>
      obtain rfl : count = last := Option.some.inj h
      rfl
  | cons operation rest ih =>
      rw [nested_cons] at h ⊢
      cases operation with
      | push =>
          rw [nestedStep, Option.bind_some, Nat.add_right_comm]
          exact ih h
      | declare name type => exact ih h
      | pop =>
          cases count with
          | zero => cases h
          | succ count =>
              rw [Nat.add_right_comm]
              exact ih h

/-! ### Open scopes -/

namespace Scope

/-- How many scopes are open inside an open scope. -/
def count (scope : Scope) : Option Nat := nested scope.outermost 0 scope.since

def extend (scope : Scope) (operation : Operation) : Scope :=
  { scope with since := scope.since ++ [operation] }

theorem count_extend (scope : Scope) (operation : Operation) :
    (scope.extend operation).count =
      scope.count.bind (nestedStep scope.outermost · operation) := by
  rw [count, extend, nested_append, count]
  exact Option.bind_congr fun count _ => nested_singleton _ count operation

/-- An operation declares something in a scope only if the scope is the innermost one. -/
theorem declares_extend {scope : Scope} {operation : Operation} {place : Nat} {name type : String} :
    (scope.extend operation).Declares place name type ↔
      scope.Declares place name type ∨
        place = scope.since.length ∧ operation = .declare name type ∧ scope.count = some 0 := by
  rw [Declares, Declares, extend, count, ← returns_iff]
  rcases Nat.lt_trichotomy place scope.since.length with hlt | rfl | hgt
  · rw [List.getElem?_append_left hlt, List.take_append_of_le_length hlt.le]
    simp [hlt.ne]
  · simp
  · simp [hgt.le, hgt.ne', hgt]

end Scope

theorem Live.exists_count {history : List Operation} {scope : Scope} (h : Live history scope) :
    ∃ count, scope.count = some count := by
  rw [← Option.ne_none_iff_exists']
  cases h with
  | outermost => exact nested_true_ne_none 0 history
  | opened heq hopen =>
      intro hnone
      obtain ⟨inside, rest, hsince, hinside⟩ := exists_leave_of_nested_eq_none hnone
      exact hopen inside rest hsince hinside

theorem live_opened {before since : List Operation} {count : Nat}
    (h : nested false 0 since = some count) : Live (before ++ .push :: since) ⟨false, since⟩ := by
  refine .opened rfl fun inside rest heq hinside => ?_
  rw [heq, nested_leave hinside] at h
  cases h

theorem Live.extend {history : List Operation} {scope : Scope} (h : Live history scope)
    {operation : Operation} {count : Nat} (hcount : (scope.extend operation).count = some count) :
    Live (history ++ [operation]) (scope.extend operation) := by
  cases h with
  | outermost => exact .outermost
  | @opened before since heq hopen =>
      rw [heq, List.append_assoc, List.cons_append]
      exact live_opened hcount

theorem live_append_singleton {history : List Operation} {operation : Operation} {scope : Scope}
    (h : Live (history ++ [operation]) scope) :
    (operation = .push ∧ scope = ⟨false, []⟩) ∨
      ∃ before, Live history before ∧ scope = before.extend operation := by
  cases h with
  | outermost => exact .inr ⟨⟨true, history⟩, .outermost, rfl⟩
  | @opened before since heq hopen =>
      rcases List.eq_nil_or_concat' since with rfl | ⟨earlier, last, rfl⟩
      · obtain ⟨-, hpush⟩ := List.append_inj' heq rfl
        exact .inl ⟨(List.cons.inj hpush).1, rfl⟩
      · rw [← List.cons_append, ← List.append_assoc] at heq
        obtain ⟨hhistory, hlast⟩ := List.append_inj' heq rfl
        obtain rfl := (List.cons.inj hlast).1
        refine .inr ⟨⟨false, earlier⟩, .opened hhistory fun inside rest hearlier => ?_, rfl⟩
        exact hopen inside (rest ++ [operation]) (by simp [hearlier])

/-! Open scopes are ordered by what has happened since they were opened. -/

theorem Live.suffix {history : List Operation} {scope : Scope} (h : Live history scope) :
    scope.since <:+ history := by
  cases h with
  | outermost => exact List.suffix_rfl
  | @opened before since heq _ => exact ⟨before ++ [.push], by simp [heq]⟩

theorem Live.count_lt {history : List Operation} {inner outer : Scope} (hinner : Live history inner)
    (houter : Live history outer) (hlength : inner.since.length < outer.since.length)
    {first second : Nat} (hfirst : inner.count = some first) (hsecond : outer.count = some second) :
    first < second := by
  cases hinner with
  | outermost => exact absurd houter.suffix.length_le (by simpa using hlength)
  | @opened before since heq hopen =>
      have hpush : .push :: since <:+ history := ⟨before, heq.symm⟩
      obtain ⟨between, hbetween⟩ := List.suffix_of_suffix_length_le hpush houter.suffix hlength
      have hcount : nested outer.outermost 0 (between ++ .push :: since) = some second := by
        rw [hbetween]
        exact hsecond
      rw [nested_append] at hcount
      obtain ⟨around, -, hrest⟩ := Option.bind_eq_some_iff.mp hcount
      have hshifted := nested_add hfirst outer.outermost (around + 1)
      rw [Nat.zero_add] at hshifted
      rw [nested_cons, nestedStep, Option.bind_some, hshifted] at hrest
      obtain rfl := Option.some.inj hrest
      omega

theorem Live.length_lt_of_opened {history since : List Operation} (h : Live history ⟨false, since⟩) :
    since.length < history.length := by
  cases h with
  | opened heq _ =>
      rw [heq, List.length_append, List.length_cons]
      omega

theorem Live.eq_of_length {history : List Operation} {first second : Scope}
    (hfirst : Live history first) (hsecond : Live history second)
    (hlength : first.since.length = second.since.length) : first = second := by
  have hsince : first.since = second.since :=
    (List.suffix_of_suffix_length_le hfirst.suffix hsecond.suffix hlength.le).eq_of_length hlength
  cases hfirst with
  | outermost =>
      cases hsecond with
      | outermost => rfl
      | opened heq hopen => exact absurd hlength (Live.opened heq hopen).length_lt_of_opened.ne'
  | opened heq hopen =>
      cases hsecond with
      | outermost => exact absurd hlength (Live.opened heq hopen).length_lt_of_opened.ne
      | opened _ _ => exact congrArg (Scope.mk false) hsince

theorem Live.length_lt {history : List Operation} {inner outer : Scope} (hinner : Live history inner)
    (houter : Live history outer) {first second : Nat} (hfirst : inner.count = some first)
    (hsecond : outer.count = some second) (hlt : first < second) :
    inner.since.length < outer.since.length := by
  rcases Nat.lt_trichotomy inner.since.length outer.since.length with hless | hsame | hmore
  · exact hless
  · obtain rfl := hinner.eq_of_length houter hsame
    obtain rfl := Option.some.inj (hfirst.symm.trans hsecond)
    exact absurd hlt (Nat.lt_irrefl first)
  · exact absurd (houter.count_lt hinner hmore hsecond hfirst) hlt.asymm

/-! ### Open scopes on the stack -/

/-- The entries of the stack for a scope are its declarations, the latest of a name found first. -/
structure Records (scope : Scope) (entries : List (String × String)) : Prop where
  latest : ∀ {name type}, entries.lookup name = some type → scope.Latest name type
  absent : ∀ {name}, entries.lookup name = none → ∀ place type, ¬ scope.Declares place name type

theorem Records.nil : Records ⟨false, []⟩ [] where
  latest h := by cases h
  absent _ _ _ h := by cases h.1

theorem Scope.Latest.unique {scope : Scope} {name first second : String}
    (h₁ : scope.Latest name first) (h₂ : scope.Latest name second) : first = second := by
  obtain ⟨place, hplace, hlast⟩ := h₁
  obtain ⟨other, hother, hotherLast⟩ := h₂
  obtain rfl : place = other :=
    Nat.le_antisymm (hotherLast place first hplace) (hlast other second hother)
  have hsame := Option.some.inj (hplace.1.symm.trans hother.1)
  exact (Operation.declare.inj hsame).2

/-- An operation that declares nothing in a scope leaves its entries as they are. -/
theorem Records.extend {scope : Scope} {entries : List (String × String)}
    (h : Records scope entries) {operation : Operation}
    (hother : ∀ name type, operation = .declare name type → scope.count ≠ some 0) :
    Records (scope.extend operation) entries := by
  have hsame (place : Nat) (name type : String) :
      (scope.extend operation).Declares place name type ↔ scope.Declares place name type := by
    rw [Scope.declares_extend]
    exact or_iff_left fun ⟨_, hdeclare, hcount⟩ => hother name type hdeclare hcount
  constructor
  · intro name type hlookup
    simpa [Scope.Latest, hsame] using h.latest hlookup
  · intro name hlookup
    simpa [hsame] using h.absent hlookup

theorem Scope.Declares.lt_length {scope : Scope} {place : Nat} {name type : String}
    (h : scope.Declares place name type) : place < scope.since.length :=
  (List.getElem?_eq_some_iff.mp h.1).1

/-- A declaration in the innermost scope hides the earlier ones of its name there. -/
theorem Records.declare {scope : Scope} {entries : List (String × String)}
    (h : Records scope entries) (hcount : scope.count = some 0) (name type : String) :
    Records (scope.extend (.declare name type)) ((name, type) :: entries) := by
  have hnew : (scope.extend (.declare name type)).Declares scope.since.length name type :=
    Scope.declares_extend.mpr (.inr ⟨rfl, rfl, hcount⟩)
  have hold {other otherType : String} {place : Nat} (hne : other ≠ name)
      (hplace : (scope.extend (.declare name type)).Declares place other otherType) :
      scope.Declares place other otherType :=
    (Scope.declares_extend.mp hplace).resolve_right fun ⟨_, hdeclare, _⟩ =>
      hne (Operation.declare.inj hdeclare).1.symm
  constructor
  · intro other otherType hlookup
    rw [List.lookup_cons] at hlookup
    split at hlookup
    · next heq =>
        obtain rfl : other = name := eq_of_beq heq
        obtain rfl := Option.some.inj hlookup
        refine ⟨scope.since.length, hnew, fun place placeType hplace => ?_⟩
        exact Nat.le_of_lt_succ (by simpa [Scope.extend] using hplace.lt_length)
    · next hne =>
        have hne : other ≠ name := by simpa using hne
        obtain ⟨place, hplace, hlast⟩ := h.latest hlookup
        exact ⟨place, Scope.declares_extend.mpr (.inl hplace),
          fun later laterType hlater => hlast later laterType (hold hne hlater)⟩
  · intro other hlookup place placeType hplace
    rw [List.lookup_cons] at hlookup
    split at hlookup
    · cases hlookup
    · next hne =>
        have hne : other ≠ name := by simpa using hne
        exact h.absent hlookup place placeType (hold hne hplace)

/-- The entries of all scopes from the innermost outwards. -/
def entries (scopes : ScopeStack) : List (List (String × String)) :=
  scopes.innermost :: scopes.enclosing

theorem entries_eq (scopes : ScopeStack) :
    scopes.entries = scopes.inner ++ [scopes.outermost] := by
  obtain ⟨inner, outermost⟩ := scopes
  cases inner <;> rfl

theorem lookup?_eq (scopes : ScopeStack) (name : String) :
    scopes.lookup? name = scopes.entries.findSome? (·.lookup name) := by
  rw [lookup?, entries_eq]

theorem enclosing_push (scopes : ScopeStack) : scopes.push.enclosing = scopes.entries := by
  obtain ⟨inner, outermost⟩ := scopes
  cases inner <;> rfl

theorem entries_push (scopes : ScopeStack) : scopes.push.entries = [] :: scopes.entries := by
  rw [entries, enclosing_push]
  rfl

theorem entries_declare (scopes : ScopeStack) (name type : String) :
    (scopes.declare name type).entries =
      ((name, type) :: scopes.innermost) :: scopes.enclosing := by
  rw [entries, innermost_declare, enclosing_declare]

theorem pop_of_enclosing_eq_nil {scopes : ScopeStack} (h : scopes.enclosing = []) :
    scopes.pop = scopes := by
  obtain ⟨inner, outermost⟩ := scopes
  cases inner with
  | nil => rfl
  | cons scope rest => simp [enclosing] at h

theorem entries_pop {scopes : ScopeStack} (h : scopes.enclosing ≠ []) :
    scopes.pop.entries = scopes.enclosing := by
  obtain ⟨inner, outermost⟩ := scopes
  cases inner with
  | nil => exact absurd rfl h
  | cons scope rest => cases rest <;> rfl

/-- The stack after a history shows the open scopes, each at the place that counts the scopes inside
it. -/
structure Follows (history : List Operation) (scopes : ScopeStack) : Prop where
  shown : ∀ {scope}, Live history scope → ∃ count declared, scope.count = some count ∧
    scopes.entries[count]? = some declared ∧ Records scope declared
  live : ∀ count < scopes.entries.length, ∃ scope, Live history scope ∧ scope.count = some count
  outermost : (Scope.mk true history).count = some scopes.enclosing.length

theorem Follows.empty : Follows [] .empty := by
  refine ⟨fun {scope} hscope => ?_, fun count hcount => ?_, rfl⟩
  · cases hscope with
    | outermost =>
        exact ⟨0, [], rfl, rfl, fun h => (by cases h), fun _ _ _ h => (by cases h.1)⟩
    | opened heq _ => simp at heq
  · obtain rfl : count = 0 := Nat.lt_one_iff.mp hcount
    exact ⟨_, .outermost, rfl⟩

theorem Follows.outermost_extend {history : List Operation} {scopes : ScopeStack}
    (h : Follows history scopes) (operation : Operation) :
    (Scope.mk true (history ++ [operation])).count =
      nestedStep true scopes.enclosing.length operation := by
  change ((Scope.mk true history).extend operation).count = _
  rw [Scope.count_extend, h.outermost, Option.bind_some]

theorem Follows.push {history : List Operation} {scopes : ScopeStack} (h : Follows history scopes) :
    Follows (history ++ [.push]) scopes.push where
  shown hscope := by
    rw [entries_push]
    rcases live_append_singleton hscope with ⟨-, rfl⟩ | ⟨before, hbefore, rfl⟩
    · exact ⟨0, [], rfl, rfl, .nil⟩
    · obtain ⟨count, declared, hcount, hget, hrecords⟩ := h.shown hbefore
      exact ⟨count + 1, declared, by rw [Scope.count_extend, hcount]; rfl, hget,
        hrecords.extend fun _ _ heq => by cases heq⟩
  live count hcount := by
    rw [entries_push] at hcount
    cases count with
    | zero => exact ⟨⟨false, []⟩, live_opened rfl, rfl⟩
    | succ count =>
        obtain ⟨scope, hscope, heq⟩ := h.live count (Nat.lt_of_succ_lt_succ hcount)
        have hextended : (scope.extend .push).count = some (count + 1) := by
          rw [Scope.count_extend, heq]
          rfl
        exact ⟨scope.extend .push, hscope.extend hextended, hextended⟩
  outermost := by
    rw [h.outermost_extend, enclosing_push]
    rfl

theorem Follows.declare {history : List Operation} {scopes : ScopeStack}
    (h : Follows history scopes) (name type : String) :
    Follows (history ++ [.declare name type]) (scopes.declare name type) where
  shown hscope := by
    rw [entries_declare]
    rcases live_append_singleton hscope with ⟨hpush, -⟩ | ⟨before, hbefore, rfl⟩
    · cases hpush
    · obtain ⟨count, declared, hcount, hget, hrecords⟩ := h.shown hbefore
      have hextended : (before.extend (.declare name type)).count = some count := by
        rw [Scope.count_extend, hcount]
        rfl
      cases count with
      | zero =>
          obtain rfl : scopes.innermost = declared := Option.some.inj hget
          exact ⟨0, _, hextended, rfl, hrecords.declare hcount name type⟩
      | succ count =>
          exact ⟨count + 1, declared, hextended, hget,
            hrecords.extend fun _ _ _ => by simp [hcount]⟩
  live count hcount := by
    rw [entries_declare] at hcount
    obtain ⟨scope, hscope, heq⟩ := h.live count hcount
    have hextended : (scope.extend (.declare name type)).count = some count := by
      rw [Scope.count_extend, heq]
      rfl
    exact ⟨scope.extend (.declare name type), hscope.extend hextended, hextended⟩
  outermost := by
    rw [h.outermost_extend, enclosing_declare]
    rfl

/-- A pop leaves the innermost scope unless that is the outermost one. -/
theorem Follows.pop {history : List Operation} {scopes : ScopeStack} (h : Follows history scopes) :
    Follows (history ++ [.pop]) scopes.pop where
  shown hscope := by
    rcases live_append_singleton hscope with ⟨hpush, -⟩ | ⟨before, hbefore, rfl⟩
    · cases hpush
    · obtain ⟨count, declared, hcount, hget, hrecords⟩ := h.shown hbefore
      obtain ⟨left, hleft⟩ := hscope.exists_count
      have hextended : Records (before.extend .pop) declared :=
        hrecords.extend fun _ _ heq => by cases heq
      refine ⟨left, declared, hleft, ?_, hextended⟩
      rw [Scope.count_extend, hcount, Option.bind_some] at hleft
      cases count with
      | zero =>
          cases hbefore with
          | opened heq hopen => cases hleft
          | outermost =>
              -- No scope is open inside the outermost one, so it is alone on the stack.
              have hground : scopes.enclosing = [] :=
                List.length_eq_zero_iff.mp (Option.some.inj (h.outermost.symm.trans hcount))
              obtain rfl : 0 = left := Option.some.inj hleft
              rwa [pop_of_enclosing_eq_nil hground]
      | succ count =>
          obtain rfl : count = left := Option.some.inj hleft
          have hinner : scopes.enclosing ≠ [] := List.ne_nil_of_mem (List.mem_of_getElem? hget)
          rwa [entries_pop hinner]
  live count hcount := by
    by_cases hground : scopes.enclosing = []
    · rw [pop_of_enclosing_eq_nil hground, entries, hground] at hcount
      obtain rfl : count = 0 := Nat.lt_one_iff.mp hcount
      exact ⟨_, .outermost, by rw [h.outermost_extend, hground]; rfl⟩
    · rw [entries_pop hground] at hcount
      obtain ⟨scope, hscope, heq⟩ := h.live (count + 1) (Nat.succ_lt_succ hcount)
      have hextended : (scope.extend .pop).count = some count := by
        rw [Scope.count_extend, heq]
        rfl
      exact ⟨scope.extend .pop, hscope.extend hextended, hextended⟩
  outermost := by
    rw [h.outermost_extend]
    by_cases hground : scopes.enclosing = []
    · rw [pop_of_enclosing_eq_nil hground, hground]
      rfl
    · rw [← entries_pop hground]
      rfl

theorem after_append (scopes : ScopeStack) (first second : List Operation) :
    scopes.after (first ++ second) = (scopes.after first).after second :=
  List.foldl_append ..

theorem follows_after (history : List Operation) : Follows history (empty.after history) := by
  induction history using List.reverseRecOn with
  | nil => exact .empty
  | append_singleton history operation ih =>
      rw [after_append]
      cases operation with
      | push => exact ih.push
      | pop => exact ih.pop
      | declare name type => exact ih.declare name type

/-! ### Lookup -/

theorem Follows.records {history : List Operation} {scopes : ScopeStack}
    (h : Follows history scopes) {scope : Scope} (hscope : Live history scope) {count : Nat}
    (hcount : scope.count = some count) {declared : List (String × String)}
    (hget : scopes.entries[count]? = some declared) : Records scope declared := by
  obtain ⟨other, found, hother, hfound, hrecords⟩ := h.shown hscope
  obtain rfl := Option.some.inj (hcount.symm.trans hother)
  obtain rfl := Option.some.inj (hget.symm.trans hfound)
  exact hrecords

theorem Records.lookup_eq_some {scope : Scope} {declared : List (String × String)}
    (h : Records scope declared) {name type : String} (hlatest : scope.Latest name type) :
    declared.lookup name = some type := by
  cases hlookup : declared.lookup name with
  | none =>
      obtain ⟨place, hplace, -⟩ := hlatest
      exact absurd hplace (h.absent hlookup place type)
  | some other => rw [hlatest.unique (h.latest hlookup)]

theorem Records.lookup_eq_none {scope : Scope} {declared : List (String × String)}
    (h : Records scope declared) {name : String}
    (habsent : ∀ place type, ¬ scope.Declares place name type) : declared.lookup name = none := by
  cases hlookup : declared.lookup name with
  | none => rfl
  | some type =>
      obtain ⟨place, hplace, -⟩ := h.latest hlookup
      exact absurd hplace (habsent place type)

/-- The first entry of the stack for a name is that of the innermost open scope that declares it. -/
theorem Follows.lookup?_eq_some_iff {history : List Operation} {scopes : ScopeStack}
    (h : Follows history scopes) {name type : String} :
    scopes.lookup? name = some type ↔ Resolves history name type := by
  rw [lookup?_eq]
  constructor
  · intro hlookup
    obtain ⟨inside, declared, outside, hentries, htype, hinside⟩ :=
      List.findSome?_eq_some_iff.mp hlookup
    obtain ⟨scope, hscope, hcount⟩ := h.live inside.length (by simp [hentries])
    have hget : scopes.entries[inside.length]? = some declared := by simp [hentries]
    have hrecords := h.records hscope hcount hget
    -- A shorter scope stands before the entry that is found, where nothing is found.
    refine ⟨scope, hscope, hrecords.latest htype, fun inner hinner hlength => ?_⟩
    obtain ⟨count, found, hfound, hother, hinnerRecords⟩ := h.shown hinner
    rw [hentries, List.getElem?_append_left (hinner.count_lt hscope hlength hfound hcount)] at hother
    exact hinnerRecords.absent (hinside found (List.mem_of_getElem? hother))
  · rintro ⟨scope, hscope, hlatest, hinnermost⟩
    obtain ⟨count, declared, hcount, hget, hrecords⟩ := h.shown hscope
    obtain ⟨hlt, rfl⟩ := List.getElem?_eq_some_iff.mp hget
    refine List.findSome?_eq_some_iff.mpr ⟨scopes.entries.take count, _,
      scopes.entries.drop (count + 1), ?_, hrecords.lookup_eq_some hlatest, fun found hfound => ?_⟩
    · rw [← List.drop_eq_getElem_cons hlt, List.take_append_drop]
    · obtain ⟨index, hindex⟩ := List.mem_iff_getElem?.mp hfound
      rw [List.getElem?_take, Option.ite_none_right_eq_some] at hindex
      obtain ⟨inner, hinner, hinnerCount⟩ := h.live index (hindex.1.trans hlt)
      have hlength := hinner.length_lt hscope hinnerCount hcount hindex.1
      exact (h.records hinner hinnerCount hindex.2).lookup_eq_none
        (hinnermost inner hinner hlength)

theorem Resolves.inSight {history : List Operation} {name type : String}
    (h : Resolves history name type) : InSight history name := by
  obtain ⟨scope, hscope, ⟨place, hplace, -⟩, -⟩ := h
  exact ⟨scope, place, type, hscope, hplace⟩

/-- A name in sight has a type. -/
theorem InSight.exists_resolves {history : List Operation} {name : String}
    (h : InSight history name) : ∃ type, Resolves history name type := by
  obtain ⟨scope, place, placeType, hscope, hplace⟩ := h
  have hfollows := follows_after history
  obtain ⟨count, declared, -, hget, hrecords⟩ := hfollows.shown hscope
  cases hlookup : (empty.after history).lookup? name with
  | some type => exact ⟨type, hfollows.lookup?_eq_some_iff.mp hlookup⟩
  | none =>
      rw [lookup?_eq, List.findSome?_eq_none_iff] at hlookup
      have hnone := hlookup declared (List.mem_of_getElem? hget)
      exact absurd hplace (hrecords.absent hnone place placeType)

/-! ### Blocks -/

/-- Operations in a scope of their own. -/
def block (inside : List Operation) : List Operation := .push :: (inside ++ [.pop])

theorem Returns.enclosing_after {outermost : Bool} {operations : List Operation}
    (h : Returns outermost operations) (hinside : outermost = false) (scopes : ScopeStack) :
    (scopes.after operations).enclosing = scopes.enclosing := by
  induction h generalizing scopes with
  | nil => rfl
  | declare name type _ ih => exact (ih hinside _).trans (enclosing_declare scopes name type)
  | @block outermost inside rest _ _ ihInside ihRest =>
      have hpop : (scopes.push.after inside).pop = scopes :=
        pop_of_enclosing (ihInside rfl scopes.push)
      have hafter : scopes.after (.push :: (inside ++ .pop :: rest)) =
          (scopes.push.after inside).pop.after rest := after_append scopes.push inside (.pop :: rest)
      rw [hafter, hpop]
      exact ihRest hinside scopes
  | surplus => cases hinside

theorem after_block {inside : List Operation} (h : Returns false inside) (scopes : ScopeStack) :
    scopes.after (block inside) = scopes := by
  have hafter : scopes.after (block inside) = (scopes.push.after inside).pop :=
    after_append scopes.push inside [.pop]
  rw [hafter]
  exact pop_of_enclosing (h.enclosing_after rfl _)

theorem after_blocks {blocks : List (List Operation)}
    (h : ∀ inside ∈ blocks, Returns false inside) (scopes : ScopeStack) :
    scopes.after (blocks.flatMap block) = scopes := by
  induction blocks with
  | nil => rfl
  | cons inside rest ih =>
      rw [List.flatMap_cons, after_append, after_block (h inside (List.mem_cons_self ..))]
      exact ih fun other hother => h other (List.mem_cons_of_mem _ hother)

/-- After any history, the text for a name is the type that the latest declaration in the innermost
open scope that declares it gives it, and empty when no open scope declares it. A pop with only the
outermost scope open changes nothing. Blocks, whatever is declared and left in them, change neither
the depth nor what any name is. -/
theorem lookup_lexical (history : List Operation) (name : String) :
    let scopes := empty.after history
    (∀ type, Resolves history name type → scopes.lookup name = type) ∧
      (InSight history name → ∃ type, Resolves history name type) ∧
      (¬ InSight history name → scopes.lookup name = "") ∧
      (scopes.depth = 1 → scopes.pop = scopes) ∧
      ∀ blocks : List (List Operation), (∀ inside ∈ blocks, Returns false inside) →
        (empty.after (history ++ blocks.flatMap block)).depth = scopes.depth ∧
          (empty.after (history ++ blocks.flatMap block)).lookup name = scopes.lookup name := by
  intro scopes
  have hfollows : Follows history scopes := follows_after history
  refine ⟨fun type htype => ?_, InSight.exists_resolves, fun habsent => ?_, fun hdepth => ?_,
    fun blocks hblocks => ?_⟩
  · rw [lookup, hfollows.lookup?_eq_some_iff.mpr htype, Option.getD_some]
  · cases hlookup : scopes.lookup? name with
    | none => rw [lookup, hlookup, Option.getD_none]
    | some type => exact absurd (hfollows.lookup?_eq_some_iff.mp hlookup).inSight habsent
  · rw [depth_eq] at hdepth
    exact pop_of_enclosing_eq_nil (List.length_eq_zero_iff.mp (by omega))
  · rw [after_append, after_blocks hblocks]
    exact ⟨rfl, rfl⟩

/-- The first pop has nothing to leave, the inner declaration hides the outer one, and the scope that
the last pop leaves is gone. -/
theorem lookup_lexical_hidden :
    let history : List Operation :=
      [.pop, .declare "x" "T", .push, .declare "x" "U", .push, .pop]
    let blocks : List (List Operation) := [[.declare "x" "V"], [.push, .declare "x" "W", .pop]]
    (Resolves history "x" "U" ∧ (empty.after history).lookup "x" = "U") ∧
      (InSight history "x" ∧ ∃ type, Resolves history "x" type) ∧
      (¬ InSight history "y" ∧ (empty.after history).lookup "y" = "") ∧
      ((empty.after [.pop]).depth = 1 ∧ (empty.after [.pop]).pop = empty.after [.pop]) ∧
      (∀ inside ∈ blocks, Returns false inside) ∧
        (empty.after (history ++ blocks.flatMap block)).depth = (empty.after history).depth ∧
        (empty.after (history ++ blocks.flatMap block)).lookup "x" =
          (empty.after history).lookup "x" := by
  intro history blocks
  have hresolves : Resolves history "x" "U" := by
    refine ⟨⟨false, [.declare "x" "U", .push, .pop]⟩, ?_, ⟨0, ⟨rfl, .nil false⟩, ?_⟩, ?_⟩
    · exact @live_opened [.pop, .declare "x" "T"] _ 0 rfl
    · rintro other otherType ⟨hget, -⟩
      rcases other with _ | _ | _ | other
      · exact le_rfl
      all_goals cases hget
    · intro inner hinner hlength place innerType hplace
      have hsuffix : inner.since <:+ [.push, .pop] :=
        List.suffix_of_suffix_length_le hinner.suffix ⟨history.take 4, rfl⟩
          (Nat.le_of_lt_succ hlength)
      exact absurd (hsuffix.mem (List.mem_of_getElem? hplace.1)) (by simp)
  have habsent : ¬ InSight history "y" := by
    rintro ⟨scope, place, type, hscope, hplace, -⟩
    have hmem := hscope.suffix.mem (List.mem_of_getElem? hplace)
    simp [history] at hmem
  have hblocks : ∀ inside ∈ blocks, Returns false inside := by decide
  obtain ⟨hlookup, hsight, -, -, hafter⟩ := lookup_lexical history "x"
  obtain ⟨-, -, hnone, -⟩ := lookup_lexical history "y"
  obtain ⟨-, -, -, hpop, -⟩ := lookup_lexical [.pop] "x"
  exact ⟨⟨hresolves, hlookup "U" hresolves⟩, ⟨hresolves.inSight, hsight hresolves.inSight⟩,
    ⟨habsent, hnone habsent⟩, ⟨rfl, hpop rfl⟩, hblocks, hafter blocks hblocks⟩

end Snippet.Render.ScopeStack
