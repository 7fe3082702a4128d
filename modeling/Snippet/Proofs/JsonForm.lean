import Mathlib.Data.Option.Basic
import Snippet.Tree.Decode
import Snippet.Tree.Encode

/-!
# The JSON form of a tree

Every constructor is written as an object with the constructor's tag as its only field, or as its
bare tag when it carries nothing, and the reader looks at that tag first. A tree is read back from
its form by one case for each constructor: the lemmas on fields and elements say what the reader
finds in an object or an array that was just written, so that a case rests only on the tags and the
field names of its constructor being told apart. Only a finite float has a form: every other is written
as null, which no float is read from.
-/

namespace Snippet

open Data Value

/-! ### Trees of finite floats -/

def Constant.floatsFinite : Constant → Bool
  | .float value => value.isFinite
  | _ => true

mutual

def Expr.floatsFinite : Expr → Bool
  | .constant value => value.floatsFinite
  | .name _ | .matchAs _ => true
  | .member value _ | .starred value | .matchValue value => value.floatsFinite
  | .unary _ operand => operand.floatsFinite
  | .binary left _ right => left.floatsFinite && right.floatsFinite
  | .bool _ values => Expr.allFloatsFinite values
  | .call func args => func.floatsFinite && Expr.allFloatsFinite args
  | .tuple elements | .list elements | .set elements => Expr.allFloatsFinite elements
  | .dict pairs => Expr.pairsFloatsFinite pairs
  | .compare left _ comparators => left.floatsFinite && Expr.allFloatsFinite comparators
  | .conditional test body orelse =>
    test.floatsFinite && body.floatsFinite && orelse.floatsFinite
  | .subscript value index => value.floatsFinite && index.floatsFinite
  | .slice lower upper step =>
    Expr.optionFloatsFinite lower && Expr.optionFloatsFinite upper && Expr.optionFloatsFinite step

def Expr.allFloatsFinite : List Expr → Bool
  | [] => true
  | expr :: rest => expr.floatsFinite && Expr.allFloatsFinite rest

def Expr.pairsFloatsFinite : List (Expr × Expr) → Bool
  | [] => true
  | (key, value) :: rest =>
    key.floatsFinite && value.floatsFinite && Expr.pairsFloatsFinite rest

def Expr.optionFloatsFinite : Option Expr → Bool
  | none => true
  | some expr => expr.floatsFinite

end

def Param.floatsFinite (param : Param) : Bool := Expr.optionFloatsFinite param.hint

def FunctionHeader.floatsFinite (header : FunctionHeader) : Bool :=
  header.params.all Param.floatsFinite && Expr.allFloatsFinite header.defaults &&
    Expr.optionFloatsFinite header.returns && Expr.allFloatsFinite header.decorators

mutual

def Stmt.floatsFinite : Stmt → Bool
  | .mk _ kind => kind.floatsFinite

def StmtKind.floatsFinite : StmtKind → Bool
  | .classDef _ bases body => Expr.allFloatsFinite bases && Stmt.allFloatsFinite body
  | .functionDef header body => header.floatsFinite && Stmt.allFloatsFinite body
  | .assign targets value => Expr.allFloatsFinite targets && value.floatsFinite
  | .annAssign target hint value =>
    target.floatsFinite && hint.floatsFinite && Expr.optionFloatsFinite value
  | .augAssign target _ value => target.floatsFinite && value.floatsFinite
  | .branch test body orelse =>
    test.floatsFinite && Stmt.allFloatsFinite body && Stmt.allFloatsFinite orelse
  | .forLoop target iter body _ =>
    target.floatsFinite && iter.floatsFinite && Stmt.allFloatsFinite body
  | .whileLoop test body => test.floatsFinite && Stmt.allFloatsFinite body
  | .pass | .breakLoop | .continueLoop | .imports _ | .importFrom .. => true
  | .returning value => Expr.optionFloatsFinite value
  | .switch subject cases => subject.floatsFinite && MatchCase.allFloatsFinite cases
  | .delete targets => Expr.allFloatsFinite targets
  | .typeAlias name value => name.floatsFinite && value.floatsFinite
  | .expr value => value.floatsFinite

def Stmt.allFloatsFinite : List Stmt → Bool
  | [] => true
  | stmt :: rest => stmt.floatsFinite && Stmt.allFloatsFinite rest

def MatchCase.floatsFinite : MatchCase → Bool
  | .mk _ pattern body => pattern.floatsFinite && Stmt.allFloatsFinite body

def MatchCase.allFloatsFinite : List MatchCase → Bool
  | [] => true
  | arm :: rest => arm.floatsFinite && MatchCase.allFloatsFinite rest

end

def Program.floatsFinite (program : Program) : Bool := Stmt.allFloatsFinite program.body

/-! ### Fields, elements and tags -/

namespace Data.Value

theorem sizeOf_lt_sizeOf_cons (name : String) (v : Value) (rest : List (String × Value)) :
    sizeOf v < sizeOf ((name, v) :: rest) := by
  simp
  omega

theorem sizeOf_lt_sizeOf_object (tag : String) (v : Value) :
    sizeOf v < sizeOf (object [(tag, v)]) := by
  simp
  omega

@[simp]
theorem tagged?_object (tag : String) (v : Value) :
    (object [(tag, v)]).tagged? = some (tag, ⟨v, sizeOf_lt_sizeOf_object tag v⟩) := rfl

theorem unitName?_object {v : Value} (h : v.isNull = false) (tag : String) :
    (object [(tag, v)]).unitName? = none := by
  cases v with
  | null => cases h
  | _ => rfl

@[simp]
theorem lookup_cons_self (name : String) (v : Value) (rest : List (String × Value)) :
    lookup name ((name, v) :: rest) = some ⟨v, sizeOf_lt_sizeOf_cons name v rest⟩ := by
  rw [lookup, if_pos rfl]

@[simp]
theorem lookup_cons_of_ne {name key : String} (h : key ≠ name) (v : Value)
    (rest : List (String × Value)) :
    lookup name ((key, v) :: rest) =
      (lookup name rest).map fun found => ⟨found.1, by have := found.2; simp; omega⟩ := by
  rw [lookup, if_neg h]

@[simp]
theorem field?_object (name : String) (fields : List (String × Value)) :
    (object fields).field? name =
      (lookup name fields).map fun found => ⟨found.1, by have := found.2; simp; omega⟩ := rfl

theorem unattach_elementsBelow {bound : Nat} {elements : List Value} (h : sizeOf elements < bound) :
    (elementsBelow bound elements h).unattach = elements := by
  induction elements with
  | nil => rfl
  | cons v rest ih => rw [elementsBelow, List.unattach_cons, ih]

theorem mapM_elementsBelow {bound : Nat} {elements : List Value} (h : sizeOf elements < bound)
    (read : Value → Option α) :
    ((elementsBelow bound elements h).mapM fun v => read v.1) = elements.mapM read := by
  induction elements with
  | nil => rfl
  | cons v rest ih => simp only [elementsBelow, List.mapM_cons, ih]

@[simp]
theorem list?_array (read : Value → Option α) (elements : List Value) :
    list? read (array elements) = elements.mapM read := by
  simp only [list?, elements?, Option.bind_some, mapM_elementsBelow]

@[simp]
theorem unitName?_string (name : String) : (string name).unitName? = some name := rfl

@[simp]
theorem string?_string (text : String) : (string text).string? = some text := rfl

@[simp]
theorem bool?_bool (value : Bool) : (bool value).bool? = some value := rfl

theorem double?_ofDouble {x : Number.Double} (h : x.isFinite = true) :
    (ofDouble x).double? = some x := by
  rw [ofDouble, dif_pos h]
  rfl

@[simp]
theorem isNull_string (text : String) : (string text).isNull = false := rfl

@[simp]
theorem isNull_object (fields : List (String × Value)) : (object fields).isNull = false := rfl

@[simp]
theorem isObject_object (fields : List (String × Value)) : (object fields).isObject = true := rfl

@[simp]
theorem get?_object (name : String) (read : Value → Option α) (fields : List (String × Value)) :
    (object fields).get? name read = (lookup name fields).bind fun v => read v.1 := by
  rw [get?, field?_object, Option.bind_map]
  rfl

theorem mapM_map_of_read {encode : α → Value} {read : Value → Option α} {as : List α}
    (h : ∀ a ∈ as, read (encode a) = some a) : (as.map encode).mapM read = some as := by
  induction as with
  | nil => rfl
  | cons a rest ih =>
    obtain ⟨ha, hrest⟩ := List.forall_mem_cons.mp h
    rw [List.map_cons, List.mapM_cons, ha, ih hrest]
    rfl

/-! ### What may be null -/

/-- The reading of a part that may be null. -/
def nullable? (read : Value → Option α) (v : Value) : Option (Option α) :=
  if v.isNull then some none else (read v).map some

@[simp]
theorem nullable?_ofOption_string (part : Option String) :
    nullable? string? (ofOption string part) = some part := by
  cases part with
  | none => rfl
  | some text => rfl

theorem mapM_optionalField?_object (name : String) (read : Value → Option α)
    (fields : List (String × Value)) :
    (((object fields).optionalField? name).mapM fun v => read v.1) =
      match lookup name fields with
      | none => some none
      | some v => nullable? read v.1 := by
  rw [optionalField?, field?_object]
  cases lookup name fields with
  | none => rfl
  | some v =>
    simp only [Option.map_some, Option.filter_some, nullable?]
    cases hnull : v.1.isNull with
    | true => simp
    | false => simp

@[simp]
theorem getOptional?_object (name : String) (read : Value → Option α)
    (fields : List (String × Value)) :
    (object fields).getOptional? name read =
      match lookup name fields with
      | none => some none
      | some v => nullable? read v.1 := by
  rw [← mapM_optionalField?_object, getOptional?]
  cases (object fields).optionalField? name with
  | none => rfl
  | some v => rfl

end Data.Value

theorem Constant.ofValue?_toValue {value : Constant} (h : value.floatsFinite = true) :
    Constant.ofValue? value.toValue = some value := by
  cases value with
  | nothing => rfl
  | bool value => rfl
  | int value =>
    have hint : int64? (.int value.toInt) = some value := by
      have hvalue : -(Number.twoTo 63 : Int) ≤ value.toInt ∧ value.toInt < Number.twoTo 63 :=
        ⟨value.le_toInt, value.toInt_lt⟩
      rw [int64?, int?, Option.bind_eq_bind, Option.bind_some, guard, if_pos hvalue]
      exact congrArg some (Int64.ofInt_toInt value)
    rw [ofValue?, toValue, unitName?_object (by rfl), if_neg (by simp)]
    simp [hint]
  | float value =>
    have hfinite : value.isFinite = true := h
    have hform : (ofDouble value).isNull = false := by
      rw [ofDouble, dif_pos hfinite]
      rfl
    rw [ofValue?, toValue, unitName?_object hform, if_neg (by simp)]
    simp [double?_ofDouble hfinite]
  | str value => rfl

/-! ### Expressions -/

theorem Expr.isNull_toValue (e : Expr) : e.toValue.isNull = false := by
  cases e <;> rw [Expr.toValue, isNull_object]

theorem CompareOp.mapM_names (ops : List CompareOp) :
    (ops.map fun op => string op.name).mapM (fun op => op.unitName?.bind CompareOp.ofName?) =
      some ops :=
  mapM_map_of_read fun op _ => CompareOp.ofName?_name op

attribute [local simp] UnaryOp.ofName?_name BinaryOp.ofName?_name BoolOp.ofName?_name
  CompareOp.mapM_names elements? unattach_elementsBelow

mutual

theorem Expr.ofValue?_toValue (expr : Expr) (h : expr.floatsFinite = true) :
    Expr.ofValue? expr.toValue = some expr := by
  cases expr with
  | constant value =>
      rw [Expr.toValue, Expr.ofValue?]
      simp [Constant.ofValue?_toValue h]
  | name ident =>
      rw [Expr.toValue, Expr.ofValue?]
      simp
  | member value attr =>
      rw [Expr.toValue, Expr.ofValue?]
      simp [Expr.ofValue?_toValue value h]
  | unary op operand =>
      rw [Expr.toValue, Expr.ofValue?]
      simp [Expr.ofValue?_toValue operand h]
  | binary left op right =>
      rw [Expr.floatsFinite, Bool.and_eq_true] at h
      rw [Expr.toValue, Expr.ofValue?]
      simp [Expr.ofValue?_toValue left h.1, Expr.ofValue?_toValue right h.2]
  | bool op values =>
      rw [Expr.toValue, Expr.ofValue?]
      simp [Expr.mapM_toValues values h]
  | call func args =>
      rw [Expr.floatsFinite, Bool.and_eq_true] at h
      rw [Expr.toValue, Expr.ofValue?]
      simp [Expr.ofValue?_toValue func h.1, Expr.mapM_toValues args h.2]
  | tuple elements =>
      rw [Expr.toValue, Expr.ofValue?]
      simp [Expr.mapM_toValues elements h]
  | list elements =>
      rw [Expr.toValue, Expr.ofValue?]
      simp [Expr.mapM_toValues elements h]
  | set elements =>
      rw [Expr.toValue, Expr.ofValue?]
      simp [Expr.mapM_toValues elements h]
  | dict pairs =>
      rw [Expr.toValue, Expr.ofValue?]
      simp only [tagged?_object, elements?, Option.pure_def, Option.bind_eq_bind,
        List.mapM_subtype, Option.bind_some, unattach_elementsBelow]
      rw [Expr.mapM_pairsToValues (fun _ _ => rfl) pairs h]
      rfl
  | compare left ops comparators =>
      rw [Expr.floatsFinite, Bool.and_eq_true] at h
      rw [Expr.toValue, Expr.ofValue?]
      simp [Expr.ofValue?_toValue left h.1, Expr.mapM_toValues comparators h.2, -List.mapM_map]
  | conditional test body orelse =>
      rw [Expr.floatsFinite, Bool.and_eq_true, Bool.and_eq_true] at h
      rw [Expr.toValue, Expr.ofValue?]
      simp [Expr.ofValue?_toValue test h.1.1, Expr.ofValue?_toValue body h.1.2,
        Expr.ofValue?_toValue orelse h.2]
  | subscript value index =>
      rw [Expr.floatsFinite, Bool.and_eq_true] at h
      rw [Expr.toValue, Expr.ofValue?]
      simp [Expr.ofValue?_toValue value h.1, Expr.ofValue?_toValue index h.2]
  | slice lower upper step =>
      rw [Expr.floatsFinite, Bool.and_eq_true, Bool.and_eq_true] at h
      rw [Expr.toValue, Expr.ofValue?]
      simp [mapM_optionalField?_object, Expr.nullable?_optionToValue lower h.1.1,
        Expr.nullable?_optionToValue upper h.1.2, Expr.nullable?_optionToValue step h.2]
  | starred value =>
      rw [Expr.toValue, Expr.ofValue?]
      simp [Expr.ofValue?_toValue value h]
  | matchValue value =>
      rw [Expr.toValue, Expr.ofValue?]
      simp [Expr.ofValue?_toValue value h]
  | matchAs binder =>
      rw [Expr.toValue, Expr.ofValue?]
      simp

theorem Expr.mapM_toValues (exprs : List Expr) (h : Expr.allFloatsFinite exprs = true) :
    (Expr.toValues exprs).mapM Expr.ofValue? = some exprs := by
  cases exprs with
  | nil => rfl
  | cons expr rest =>
      rw [Expr.allFloatsFinite, Bool.and_eq_true] at h
      rw [Expr.toValues, List.mapM_cons, Expr.ofValue?_toValue expr h.1, Expr.mapM_toValues rest h.2]
      rfl

theorem Expr.mapM_pairsToValues {read : Value → Option (Expr × Expr)}
    (hread : ∀ key value, read (array [key, value]) =
      (Expr.ofValue? key).bind fun k => (Expr.ofValue? value).bind fun v => some (k, v))
    (pairs : List (Expr × Expr)) (h : Expr.pairsFloatsFinite pairs = true) :
    (Expr.pairsToValues pairs).mapM read = some pairs := by
  cases pairs with
  | nil => rfl
  | cons pair rest =>
      obtain ⟨key, value⟩ := pair
      rw [Expr.pairsFloatsFinite, Bool.and_eq_true, Bool.and_eq_true] at h
      rw [Expr.pairsToValues, List.mapM_cons, hread, Expr.ofValue?_toValue key h.1.1,
        Expr.ofValue?_toValue value h.1.2, Expr.mapM_pairsToValues hread rest h.2]
      rfl

theorem Expr.nullable?_optionToValue (part : Option Expr)
    (h : Expr.optionFloatsFinite part = true) :
    nullable? Expr.ofValue? (Expr.optionToValue part) = some part := by
  cases part with
  | none => rfl
  | some expr =>
      rw [Expr.optionToValue, nullable?, Expr.isNull_toValue, Expr.ofValue?_toValue expr h]
      rfl

end

/-! ### Statements -/

theorem Param.ofValue?_toValue {param : Param} (h : param.floatsFinite = true) :
    Param.ofValue? param.toValue = some param := by
  rw [Param.toValue, Param.ofValue?]
  simp [Expr.nullable?_optionToValue param.hint h]

theorem Alias.ofValue?_toValue (imported : Alias) :
    Alias.ofValue? imported.toValue = some imported := by
  rw [Alias.toValue, Alias.ofValue?]
  simp

theorem Alias.mapM_toValues (names : List Alias) :
    (names.map Alias.toValue).mapM Alias.ofValue? = some names :=
  mapM_map_of_read fun imported _ => imported.ofValue?_toValue

theorem Param.mapM_toValues {params : List Param} (h : params.all Param.floatsFinite = true) :
    (params.map Param.toValue).mapM Param.ofValue? = some params :=
  mapM_map_of_read fun param hparam => Param.ofValue?_toValue (List.all_eq_true.mp h param hparam)

theorem word?_int_toNat (line : UInt64) : word? (.int line.toNat) = some line := by
  have hline : (0 : Int) ≤ line.toNat ∧ (line.toNat : Int) < Number.twoTo 64 :=
    ⟨by omega, by exact_mod_cast line.toNat_lt⟩
  rw [word?, int?, Option.bind_eq_bind, Option.bind_some, guard, if_pos hline]
  exact congrArg some UInt64.ofNat_toNat

/-! The two lemmas below take any value that reads as the line: at the number itself the kernel
would compare the sizes of numerals. -/

theorem Stmt.ofValue?_object {written : Value} {line : UInt64} (h : written.word? = some line)
    (kind : Value) :
    Stmt.ofValue? (.object [("line", written), ("kind", kind)]) =
      (StmtKind.ofValue? kind).map (Stmt.mk line) := by
  rw [Stmt.ofValue?]
  cases hkind : StmtKind.ofValue? kind with
  | none => simp [h, hkind]
  | some kind => simp [h, hkind]

theorem MatchCase.ofValue?_object {written : Value} {line : UInt64} (h : written.word? = some line)
    {pattern : Expr} (hpattern : pattern.floatsFinite = true) (body : List Value) :
    MatchCase.ofValue? (.object [("line", written), ("pattern", pattern.toValue),
        ("body", .array body)]) =
      (body.mapM Stmt.ofValue?).map (MatchCase.mk line pattern) := by
  rw [MatchCase.ofValue?]
  cases hbody : body.mapM Stmt.ofValue? with
  | none => simp [h, hbody, Expr.ofValue?_toValue pattern hpattern]
  | some body => simp [h, hbody, Expr.ofValue?_toValue pattern hpattern]

mutual

theorem Stmt.ofValue?_toValue (stmt : Stmt) (h : stmt.floatsFinite = true) :
    Stmt.ofValue? stmt.toValue = some stmt := by
  cases stmt with
  | mk line kind =>
      rw [Stmt.toValue, Stmt.ofValue?_object (word?_int_toNat line), StmtKind.ofValue?_toValue kind h]
      rfl

theorem StmtKind.ofValue?_toValue (kind : StmtKind) (h : kind.floatsFinite = true) :
    StmtKind.ofValue? kind.toValue = some kind := by
  cases kind with
  | classDef name bases body =>
      rw [StmtKind.floatsFinite, Bool.and_eq_true] at h
      rw [StmtKind.toValue, StmtKind.ofValue?, unitName?_object (by simp)]
      simp [Expr.mapM_toValues bases h.1, Stmt.mapM_toValues body h.2]
  | functionDef header body =>
      rw [StmtKind.floatsFinite, FunctionHeader.floatsFinite] at h
      simp only [Bool.and_eq_true] at h
      obtain ⟨⟨⟨⟨hparams, hdefaults⟩, hreturns⟩, hdecorators⟩, hbody⟩ := h
      rw [StmtKind.toValue, StmtKind.ofValue?, unitName?_object (by simp)]
      simp [Stmt.mapM_toValues body hbody, FunctionHeader.ofValue?, Param.mapM_toValues hparams,
        Expr.mapM_toValues _ hdefaults, Expr.mapM_toValues _ hdecorators,
        Expr.nullable?_optionToValue _ hreturns, -List.mapM_map]
  | assign targets value =>
      rw [StmtKind.floatsFinite, Bool.and_eq_true] at h
      rw [StmtKind.toValue, StmtKind.ofValue?, unitName?_object (by simp)]
      simp [Expr.mapM_toValues targets h.1, Expr.ofValue?_toValue value h.2]
  | annAssign target hint value =>
      rw [StmtKind.floatsFinite, Bool.and_eq_true, Bool.and_eq_true] at h
      rw [StmtKind.toValue, StmtKind.ofValue?, unitName?_object (by simp)]
      simp [Expr.ofValue?_toValue target h.1.1, Expr.ofValue?_toValue hint h.1.2,
        Expr.nullable?_optionToValue value h.2]
  | augAssign target op value =>
      rw [StmtKind.floatsFinite, Bool.and_eq_true] at h
      rw [StmtKind.toValue, StmtKind.ofValue?, unitName?_object (by simp)]
      simp [Expr.ofValue?_toValue target h.1, Expr.ofValue?_toValue value h.2]
  | branch test body orelse =>
      rw [StmtKind.floatsFinite, Bool.and_eq_true, Bool.and_eq_true] at h
      rw [StmtKind.toValue, StmtKind.ofValue?, unitName?_object (by simp)]
      simp [Expr.ofValue?_toValue test h.1.1, Stmt.mapM_toValues body h.1.2,
        Stmt.mapM_toValues orelse h.2]
  | forLoop target iter body isAsync =>
      rw [StmtKind.floatsFinite, Bool.and_eq_true, Bool.and_eq_true] at h
      rw [StmtKind.toValue, StmtKind.ofValue?, unitName?_object (by simp)]
      simp [Expr.ofValue?_toValue target h.1.1, Expr.ofValue?_toValue iter h.1.2,
        Stmt.mapM_toValues body h.2]
  | whileLoop test body =>
      rw [StmtKind.floatsFinite, Bool.and_eq_true] at h
      rw [StmtKind.toValue, StmtKind.ofValue?, unitName?_object (by simp)]
      simp [Expr.ofValue?_toValue test h.1, Stmt.mapM_toValues body h.2]
  | pass => rw [StmtKind.toValue, StmtKind.ofValue?, unitName?_string, if_pos rfl]
  | breakLoop =>
      rw [StmtKind.toValue, StmtKind.ofValue?, unitName?_string]
      simp
  | continueLoop =>
      rw [StmtKind.toValue, StmtKind.ofValue?, unitName?_string]
      simp
  | returning value =>
      cases value with
      | none =>
          rw [StmtKind.toValue, StmtKind.ofValue?, Expr.optionToValue]
          simp [unitName?, isNull]
      | some value =>
          rw [StmtKind.toValue, StmtKind.ofValue?, Expr.optionToValue,
            unitName?_object value.isNull_toValue]
          simp [Expr.isNull_toValue, Expr.ofValue?_toValue value h]
  | switch subject cases =>
      rw [StmtKind.floatsFinite, Bool.and_eq_true] at h
      rw [StmtKind.toValue, StmtKind.ofValue?, unitName?_object (by simp)]
      simp [Expr.ofValue?_toValue subject h.1, MatchCase.mapM_toValues cases h.2]
  | imports names =>
      rw [StmtKind.toValue, StmtKind.ofValue?, unitName?_object (by rfl)]
      simp [Alias.mapM_toValues, -List.mapM_map]
  | importFrom module names =>
      rw [StmtKind.toValue, StmtKind.ofValue?, unitName?_object (by simp)]
      simp [Alias.mapM_toValues, -List.mapM_map]
  | delete targets =>
      rw [StmtKind.toValue, StmtKind.ofValue?, unitName?_object (by rfl)]
      simp [Expr.mapM_toValues targets h]
  | typeAlias name value =>
      rw [StmtKind.floatsFinite, Bool.and_eq_true] at h
      rw [StmtKind.toValue, StmtKind.ofValue?, unitName?_object (by simp)]
      simp [Expr.ofValue?_toValue name h.1, Expr.ofValue?_toValue value h.2]
  | expr value =>
      rw [StmtKind.toValue, StmtKind.ofValue?, unitName?_object value.isNull_toValue]
      simp [Expr.ofValue?_toValue value h]

theorem Stmt.mapM_toValues (stmts : List Stmt) (h : Stmt.allFloatsFinite stmts = true) :
    (Stmt.toValues stmts).mapM Stmt.ofValue? = some stmts := by
  cases stmts with
  | nil => rfl
  | cons stmt rest =>
      rw [Stmt.allFloatsFinite, Bool.and_eq_true] at h
      rw [Stmt.toValues, List.mapM_cons, Stmt.ofValue?_toValue stmt h.1, Stmt.mapM_toValues rest h.2]
      rfl

theorem MatchCase.ofValue?_toValue (arm : MatchCase) (h : arm.floatsFinite = true) :
    MatchCase.ofValue? arm.toValue = some arm := by
  cases arm with
  | mk line pattern body =>
      rw [MatchCase.floatsFinite, Bool.and_eq_true] at h
      rw [MatchCase.toValue, MatchCase.ofValue?_object (word?_int_toNat line) h.1,
        Stmt.mapM_toValues body h.2]
      rfl

theorem MatchCase.mapM_toValues (arms : List MatchCase)
    (h : MatchCase.allFloatsFinite arms = true) :
    (MatchCase.toValues arms).mapM MatchCase.ofValue? = some arms := by
  cases arms with
  | nil => rfl
  | cons arm rest =>
      rw [MatchCase.allFloatsFinite, Bool.and_eq_true] at h
      rw [MatchCase.toValues, List.mapM_cons, MatchCase.ofValue?_toValue arm h.1,
        MatchCase.mapM_toValues rest h.2]
      rfl

end

theorem Program.ofValue?_toValue {program : Program} (h : program.floatsFinite = true) :
    Program.ofValue? program.toValue = some program := by
  rw [Program.toValue, Program.ofValue?]
  simp [Stmt.mapM_toValues _ h]

/-- **The JSON form loses nothing.** A program of finite floats is read back from the form it is
written in, and no two of them share one. -/
theorem Program.jsonForm_lossless :
    (∀ program : Program, program.floatsFinite = true →
      Program.ofValue? program.toValue = some program) ∧
    ∀ first second : Program, first.floatsFinite = true → second.floatsFinite = true →
      first.toValue = second.toValue → first = second := by
  refine ⟨fun program => Program.ofValue?_toValue, fun first second hfirst hsecond h => ?_⟩
  refine Option.some.inj ?_
  rw [← Program.ofValue?_toValue hfirst, h, Program.ofValue?_toValue hsecond]

/-- The two zeros have two forms, which are numbers, and are read back as they were. -/
theorem Program.jsonForm_lossless_zeros :
    let zero : Program := ⟨[.mk 1 (.expr (.constant (.float ⟨0⟩)))]⟩
    let negative : Program := ⟨[.mk 1 (.expr (.constant (.float (Number.Double.neg ⟨0⟩))))]⟩
    zero.toValue = .object [("body", .array [.object [("line", .int 1), ("kind",
      .object [("expr", .object [("constant",
        .object [("float", .float ⟨⟨0⟩, by decide⟩)])])])]])] ∧
      Program.ofValue? zero.toValue = some zero ∧
      Program.ofValue? negative.toValue = some negative ∧ zero.toValue ≠ negative.toValue := by
  intro zero negative
  have hzero : zero.floatsFinite = true := by decide
  have hnegative : negative.floatsFinite = true := by decide
  have hne : zero ≠ negative := by
    intro h
    simp [zero, negative, Number.Double.neg] at h
  exact ⟨rfl, Program.jsonForm_lossless.1 zero hzero, Program.jsonForm_lossless.1 negative hnegative,
    fun h => hne (Program.jsonForm_lossless.2 zero negative hzero hnegative h)⟩

/-- An infinity is written as null, and no float is read from that. -/
example : Program.ofValue? (Program.toValue
    ⟨[.mk 1 (.expr (.constant (.float Number.Double.infinity)))]⟩) = none := by
  cbv

end Snippet
