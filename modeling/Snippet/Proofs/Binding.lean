import Snippet.Proofs.Receiver
import Snippet.Proofs.Refusal.Settled
import Snippet.Proofs.Stops
import Snippet.Proofs.Styling

/-!
# Names where they are bound and where they are used

A header is taken apart into plain text and the identifiers that it binds, each with the text written
for it. Functions and their parameters are styled as the uses of names are, and differ only from the
uses that have a word of their own: those of the well-known names, and of `self` in a class. Classes
and imports are not styled at all, so they also differ from the uses of every name that has a style.
-/

namespace Snippet

open Layout (BraceStyle Step)
open Render Script

/-- An identifier that is bound, and the text that is written where it is. -/
structure Binder where
  ident : String
  written : String
  deriving DecidableEq

/-- A use of the name has the text of its binder. -/
def Binder.ReadsAlike (target : Target) (inside : Surroundings) (binder : Binder) : Prop :=
  target.nameText inside binder.ident false = binder.written

/-- An identifier that is written as it stands. -/
def Binder.raw (ident : String) : Binder := ⟨ident, ident⟩

inductive Segment where
  | plain (text : String)
  | binder (found : Binder)

namespace Segment

def textOf : List Segment → String
  | [] => ""
  | .plain text :: rest => text ++ textOf rest
  | .binder found :: rest => found.written ++ textOf rest

def binders : List Segment → List Binder
  | [] => []
  | .plain _ :: rest => binders rest
  | .binder found :: rest => found :: binders rest

def listed (items : List (List Segment)) : List Segment := [.plain ", "].intercalate items

@[simp] theorem textOf_append (first second : List Segment) :
    textOf (first ++ second) = textOf first ++ textOf second := by
  induction first with
  | nil => simp [textOf]
  | cons segment rest ih => cases segment <;> simp [textOf, ih, String.append_assoc]

@[simp] theorem binders_append (first second : List Segment) :
    binders (first ++ second) = binders first ++ binders second := by
  induction first with
  | nil => rfl
  | cons segment rest ih => cases segment <;> simp [binders, ih]

@[simp] theorem textOf_listed (items : List (List Segment)) :
    textOf (listed items) = commaList (items.map textOf) := by
  induction items with
  | nil => rfl
  | cons first rest ih =>
      cases rest with
      | nil => simp [listed, commaList]
      | cons second others =>
          rw [listed, List.intercalate_cons_cons, List.map_cons, commaList,
            String.intercalate_cons_of_ne_nil (by simp)]
          rw [listed, commaList] at ih
          simp [ih, textOf, String.append_assoc]

@[simp] theorem binders_listed (items : List (List Segment)) :
    binders (listed items) = items.flatMap binders := by
  induction items with
  | nil => rfl
  | cons first rest ih =>
      cases rest with
      | nil => simp [listed]
      | cons second others =>
          rw [listed, List.intercalate_cons_cons, List.flatMap_cons]
          rw [listed] at ih
          simp [ih, binders]

end Segment

/-! ### The headers of functions -/

/-- A styled identifier. -/
def Dialect.styled (dialect : Dialect) (ident : String) : Binder := ⟨ident, dialect.styledName ident⟩

def Dialect.parameterSegments (dialect : Dialect) (param : SignatureParam) : List Segment :=
  let binder := Segment.binder (dialect.styled param.name)
  let default :=
    match param.default with
    | some text => [.plain (" = " ++ text)]
    | none => []
  match dialect, param.hint with
  | cpp, hint => .plain (hint.getD "auto" ++ " ") :: binder :: default
  | typeScript true, some hint => binder :: .plain (": " ++ hint) :: default
  | typeScript _, _ => binder :: default

/-- The methods whose headers do not have their names. -/
def isFixedMethod (name : String) : Bool := name == "__init__" || Dialect.isStringMethod name

def Signature.boundNames (signature : Signature) : List String :=
  (if signature.isMethod && isFixedMethod signature.name then [] else [signature.name]) ++
    signature.params.map SignatureParam.name

def Dialect.parameterListSegments (dialect : Dialect) (params : List SignatureParam) :
    List Segment :=
  .plain "(" :: (Segment.listed (params.map dialect.parameterSegments) ++ [.plain ")"])

def Dialect.typeScriptNameSegments (typed : Bool) (signature : Signature) : List Segment :=
  let binder := Segment.binder ((typeScript typed).styled signature.name)
  if !signature.isMethod then [.plain "function ", binder]
  else if signature.name = "__init__" then [.plain "constructor"]
  else if isStringMethod signature.name then [.plain "toString"]
  else [.plain (if signature.isGetter then "get " else ""), binder]

def Dialect.headerSegments? (dialect : Dialect) (around : Surroundings) (signature : Signature) :
    Option (List Segment) :=
  let params := dialect.parameterListSegments signature.params
  match dialect with
  | cpp =>
    if signature.isAsync then none
    else if signature.isMethod && signature.name == "__init__" then
      around.className.map fun className => .plain className :: params
    else if signature.isMethod && isStringMethod signature.name then
      some (.plain "operator std::string" :: (params ++ [.plain " const"]))
    else
      some (.plain (signature.returns.getD "void" ++ " ") ::
        .binder (cpp.styled signature.name) :: params)
  | typeScript typed =>
    let returns :=
      match typed, signature.returns with
      | true, some returns => " : " ++ returns
      | _, _ => ""
    some (.plain (if signature.isAsync then "async " else "") ::
      (typeScriptNameSegments typed signature ++ params ++ [.plain returns]))

section Functions

variable {dialect : Dialect} {around : Surroundings}

@[simp] theorem textOf_parameterSegments (param : SignatureParam) :
    Segment.textOf (dialect.parameterSegments param) =
      match param.default with
      | some default => dialect.parameter param ++ " = " ++ default
      | none => dialect.parameter param := by
  obtain ⟨name, hint, default⟩ := param
  cases dialect with
  | cpp => cases default <;>
      simp [Dialect.parameterSegments, Dialect.parameter, Segment.textOf, Dialect.styled,
        String.append_assoc]
  | typeScript typed => cases typed <;> cases hint <;> cases default <;>
      simp [Dialect.parameterSegments, Dialect.parameter, Segment.textOf, Dialect.styled,
        String.append_assoc]

@[simp] theorem binders_parameterSegments (param : SignatureParam) :
    Segment.binders (dialect.parameterSegments param) = [dialect.styled param.name] := by
  obtain ⟨name, hint, default⟩ := param
  cases dialect with
  | cpp => cases default <;> rfl
  | typeScript typed => cases typed <;> cases hint <;> cases default <;> rfl

@[simp] theorem textOf_parameterListSegments (params : List SignatureParam) :
    Segment.textOf (dialect.parameterListSegments params) =
      "(" ++ Dialect.parameterList dialect.parameter params ++ ")" := by
  have htexts : commaList ((params.map dialect.parameterSegments).map Segment.textOf) =
      Dialect.parameterList dialect.parameter params := by
    rw [List.map_map]
    exact congrArg commaList (List.map_congr_left fun param _ => textOf_parameterSegments param)
  simp only [Dialect.parameterListSegments, Segment.textOf, Segment.textOf_append,
    Segment.textOf_listed, htexts, String.append_empty, String.append_assoc]

@[simp] theorem binders_parameterListSegments (params : List SignatureParam) :
    Segment.binders (dialect.parameterListSegments params) =
      (params.map SignatureParam.name).map dialect.styled := by
  rw [Dialect.parameterListSegments, Segment.binders, Segment.binders_append,
    Segment.binders_listed]
  induction params with
  | nil => rfl
  | cons param rest ih => simpa [Segment.binders] using ih

theorem textOf_typeScriptNameSegments (typed : Bool) (signature : Signature) :
    Segment.textOf (Dialect.typeScriptNameSegments typed signature) =
      if !signature.isMethod then
        "function " ++ (Dialect.typeScript typed).styledName signature.name
      else if signature.name = "__init__" then "constructor"
      else if Dialect.isStringMethod signature.name then "toString"
      else
        (if signature.isGetter then "get " else "") ++
          (Dialect.typeScript typed).styledName signature.name := by
  rw [Dialect.typeScriptNameSegments]
  split
  · simp [Segment.textOf, Dialect.styled]
  · split
    · rfl
    · split <;> simp [Segment.textOf, Dialect.styled]

/-- The segments of a header make up its text. -/
theorem textOf_headerSegments (signature : Signature) :
    (dialect.headerSegments? around signature).map Segment.textOf =
      dialect.functionHeader? around signature := by
  cases dialect with
  | cpp =>
      rw [Dialect.headerSegments?, Dialect.functionHeader?, Dialect.cppFunctionHeader?]
      split
      · rfl
      · split
        · cases around.className with
          | none => rfl
          | some className => simp [Segment.textOf]
        · split <;> simp [Segment.textOf, Dialect.styled, String.append_assoc]
  | typeScript typed =>
      cases typed <;> cases hreturns : signature.returns <;>
        simp [Dialect.headerSegments?, Dialect.functionHeader?, Dialect.typeScriptFunctionHeader,
          Segment.textOf, textOf_typeScriptNameSegments, hreturns, String.append_assoc]

theorem binders_headerSegments {signature : Signature} {segments : List Segment}
    (h : dialect.headerSegments? around signature = some segments) :
    Segment.binders segments = signature.boundNames.map dialect.styled := by
  cases dialect with
  | cpp =>
      rw [Dialect.headerSegments?] at h
      split at h
      · cases h
      · split at h
        · next hinit =>
            obtain ⟨className, -, rfl⟩ := Option.map_eq_some_iff.mp h
            have hfixed : (signature.isMethod && isFixedMethod signature.name) = true := by
              simp_all [isFixedMethod]
            simp [Signature.boundNames, hfixed, Segment.binders]
        · split at h
          · next hstring =>
              obtain rfl := Option.some.inj h
              have hfixed : (signature.isMethod && isFixedMethod signature.name) = true := by
                simp_all [isFixedMethod]
              simp [Signature.boundNames, hfixed, Segment.binders]
          · next hinit hstring =>
              obtain rfl := Option.some.inj h
              have hfixed : (signature.isMethod && isFixedMethod signature.name) = false := by
                simp_all [isFixedMethod]
              simp [Signature.boundNames, hfixed, Segment.binders]
  | typeScript typed =>
      obtain rfl := Option.some.inj h
      have hname : Segment.binders (Dialect.typeScriptNameSegments typed signature) =
          (if signature.isMethod && isFixedMethod signature.name then []
            else [(Dialect.typeScript typed).styled signature.name]) := by
        rw [Dialect.typeScriptNameSegments]
        cases signature.isMethod with
        | false => rfl
        | true =>
            by_cases hinit : signature.name = "__init__"
            · simp [hinit, isFixedMethod, Segment.binders]
            · cases hstring : Dialect.isStringMethod signature.name <;>
                simp [hinit, hstring, isFixedMethod, Segment.binders]
      simp only [Segment.binders, Segment.binders_append, hname, binders_parameterListSegments,
        Signature.boundNames, List.map_append, List.append_nil]
      split <;> rfl

end Functions

/-! ### The headers of classes and imports -/

def Dialect.classSegments (dialect : Dialect) (name : String) (bases : List String) :
    List Segment :=
  let header : List Segment := [.plain "class ", .binder (.raw name)]
  match dialect, bases with
  | _, [] => header
  | cpp, bases => header ++ [.plain (" : " ++ commaList (bases.map ("public " ++ ·)))]
  | typeScript _, bases => header ++ [.plain (" extends " ++ commaList bases)]

/-- What an `import` binds: of a path, as in `import os.path`, the first part. -/
def Alias.binder (imported : Alias) : Binder where
  ident := imported.asname.getD (String.ofList (imported.name.toList.takeWhile (· != '.')))
  written := imported.asname.getD imported.name

def Alias.importSegments (imported : Alias) : List Segment :=
  [.plain "import * as ", .binder imported.binder, .plain (" from '" ++ imported.name ++ "';")]

/-- The name that an item after `from … import` binds. There is none for a star. -/
def Alias.ident? (imported : Alias) : Option String :=
  match imported.asname with
  | some asname => some asname
  | none => if imported.name = "*" then none else some imported.name

def Alias.importedSegments (imported : Alias) : List Segment :=
  match imported.asname, imported.ident? with
  | some _, some ident => [.plain (imported.name ++ " as "), .binder (.raw ident)]
  | none, some ident => [.binder (.raw ident)]
  | _, none => [.plain imported.name]

def importFromSegments (module : String) (names : List Alias) : List Segment :=
  .plain "import \x7b " :: (Segment.listed (names.map Alias.importedSegments) ++
    [.plain (" \x7d from '" ++ module ++ "';")])

section Imports

variable {dialect : Dialect}

theorem textOf_classSegments (name : String) (bases : List String) :
    Segment.textOf (dialect.classSegments name bases) = dialect.classHeader name bases := by
  cases dialect <;> cases bases <;>
    simp [Dialect.classSegments, Dialect.classHeader, Segment.textOf, Binder.raw,
      String.append_assoc]

theorem binders_classSegments (name : String) (bases : List String) :
    Segment.binders (dialect.classSegments name bases) = [.raw name] := by
  cases dialect <;> cases bases <;> rfl

theorem textOf_importSegments (imported : Alias) :
    Segment.textOf imported.importSegments = Dialect.importLine imported := by
  unfold Dialect.importLine
  simp [Alias.importSegments, Alias.binder, Segment.textOf, String.append_assoc]

theorem textOf_importFromSegments (module : String) (names : List Alias) :
    Segment.textOf (importFromSegments module names) =
      "import \x7b " ++ commaList (names.map Dialect.importedName) ++ " \x7d from '" ++ module ++
        "';" := by
  have himported : ∀ imported : Alias,
      Segment.textOf imported.importedSegments = Dialect.importedName imported := by
    rintro ⟨name, asname⟩
    cases asname with
    | some asname =>
        simp [Alias.importedSegments, Alias.ident?, Segment.textOf, Binder.raw,
          Dialect.importedName]
    | none =>
        by_cases hstar : name = "*" <;>
          simp [Alias.importedSegments, Alias.ident?, hstar, Segment.textOf, Binder.raw,
            Dialect.importedName]
  have htexts : (names.map Alias.importedSegments).map Segment.textOf =
      names.map Dialect.importedName := by
    rw [List.map_map]
    exact List.map_congr_left fun imported _ => himported imported
  simp [importFromSegments, Segment.textOf, htexts, String.append_assoc]

theorem binders_importedSegments (imported : Alias) :
    Segment.binders imported.importedSegments = imported.ident?.toList.map Binder.raw := by
  obtain ⟨name, asname⟩ := imported
  cases asname with
  | some asname => rfl
  | none =>
      by_cases hstar : name = "*" <;>
        simp [Alias.importedSegments, Alias.ident?, hstar, Segment.binders]

theorem binders_importFromSegments (module : String) (names : List Alias) :
    Segment.binders (importFromSegments module names) =
      (names.filterMap Alias.ident?).map Binder.raw := by
  rw [importFromSegments, Segment.binders, Segment.binders_append, Segment.binders_listed]
  induction names with
  | nil => rfl
  | cons imported rest ih =>
      rw [List.map_cons, List.flatMap_cons, binders_importedSegments, List.append_assoc, ih]
      cases hident : imported.ident? <;> simp [hident]

end Imports

/-! ### What a statement that binds names writes -/

/-- The parameters that stay in the signature. -/
def FunctionHeader.keptParams (header : FunctionHeader) (isMethod : Bool) : List Param :=
  header.params.drop (if isMethod && header.hasReceiver then 1 else 0)

/-- The receiver of a method, which does not stay. -/
def FunctionHeader.elidedParams (header : FunctionHeader) (isMethod : Bool) : List Param :=
  header.params.take (if isMethod && header.hasReceiver then 1 else 0)

theorem FunctionHeader.name_of_mem_elidedParams {isMethod : Bool} {receiver : Param}
    (header : FunctionHeader) (h : receiver ∈ header.elidedParams isMethod) :
    receiver.name = "self" ∨ receiver.name = "cls" := by
  rw [elidedParams] at h
  split at h
  · next hreceiver =>
      have hfirst : header.hasReceiver = true := (Bool.and_eq_true_iff.mp hreceiver).2
      rw [hasReceiver] at hfirst
      cases hparams : header.params with
      | nil => simp [hparams] at h
      | cons first rest =>
          obtain rfl : receiver = first := by simpa [hparams] using h
          simpa [hparams] using hfirst
  · cases h

/-- The names that a function's header binds. -/
def FunctionHeader.boundNames (header : FunctionHeader) (isMethod : Bool) : List String :=
  (if isMethod && isFixedMethod header.name then [] else [header.name]) ++
    (header.keptParams isMethod).map Param.name

section Statements

variable {dialect : Dialect} {style : BraceStyle} {around : Surroundings}

theorem names_of_renderParams {target : Target} {header : FunctionHeader} {index : Nat}
    {params : List Param} {texts : List SignatureParam}
    (h : header.renderParams target around index params = .ok texts) :
    texts.map SignatureParam.name = params.map Param.name := by
  induction params generalizing index texts with
  | nil =>
      obtain rfl : [] = texts := by simpa [FunctionHeader.renderParams] using h
      rfl
  | cons param rest ih =>
      rw [FunctionHeader.renderParams] at h
      obtain ⟨hint, -, h⟩ := exists_of_bind_eq_ok h
      obtain ⟨default, -, h⟩ := exists_of_bind_eq_ok h
      obtain ⟨more, hmore, h⟩ := exists_of_bind_eq_ok h
      obtain rfl := Except.ok.inj h
      rw [List.map_cons, List.map_cons, ih hmore]

/-- A signature has the names of its function, and nothing is written for it. -/
theorem names_of_renderSignature {target : Target} {header : FunctionHeader} {isMethod : Bool}
    {returns : Option String} {signature : Signature}
    (h : (header.renderSignature target isMethod returns around).result = .ok signature) :
    signature.name = header.name ∧ signature.isMethod = isMethod ∧
      signature.params.map SignatureParam.name = (header.keptParams isMethod).map Param.name ∧
      header.renderSignature target isMethod returns around = ⟨.ok signature, around, []⟩ := by
  rw [FunctionHeader.renderSignature] at h ⊢
  obtain ⟨params, hparams, hsignature, -⟩ := exists_of_bind_ok h
  obtain rfl := Except.ok.inj hsignature
  refine ⟨rfl, rfl, names_of_renderParams hparams, ?_⟩
  simp only [bind_apply, hparams]
  rfl

theorem headerSegments_congr {first second : Surroundings} (h : first.className = second.className)
    (signature : Signature) :
    dialect.headerSegments? first signature = dialect.headerSegments? second signature := by
  cases dialect with
  | cpp => simp only [Dialect.headerSegments?, h]
  | typeScript typed => rfl

/-- A function's header comes first, laid out as the brace style has it. -/
theorem exists_opening (around : Surroundings) {header : FunctionHeader} {isMethod : Bool}
    {returns : Option String} {node : RejectedNode} {rest : Script Unit}
    (h : ((do
      let signature ← header.renderSignature (.curly dialect style) isMethod returns
      Script.begin? (.curly dialect style) node fun around =>
        Target.beginFunction? (.curly dialect style) around signature
      rest : Script Unit) around).result = .ok ()) :
    ∃ (signature : Signature) (segments : List Segment),
      signature.name = header.name ∧ signature.isMethod = isMethod ∧
      signature.params.map SignatureParam.name = (header.keptParams isMethod).map Param.name ∧
      dialect.headerSegments? around signature = some segments ∧
      style.opening (Segment.textOf segments) <+:
        ((do
          let signature ← header.renderSignature (.curly dialect style) isMethod returns
          Script.begin? (.curly dialect style) node fun around =>
            Target.beginFunction? (.curly dialect style) around signature
          rest : Script Unit) around).steps := by
  obtain ⟨signature, hsignature, h, hsteps⟩ := exists_of_bind_ok h
  obtain ⟨hname, hmethod, hparams, houtcome⟩ := names_of_renderSignature hsignature
  rw [houtcome] at h hsteps
  obtain ⟨_, hbegin, -, hwritten⟩ := exists_of_bind_ok h
  have htext : (dialect.headerSegments? around signature).map Segment.textOf =
      dialect.functionHeader? around signature := textOf_headerSegments signature
  cases hsegments : dialect.headerSegments? around signature with
  | none =>
      rw [hsegments, Option.map_none] at htext
      simp [Script.begin?, Target.beginFunction?, ← htext] at hbegin
  | some segments =>
      rw [hsegments, Option.map_some] at htext
      refine ⟨signature, segments, hname, hmethod, hparams, hsegments, ?_⟩
      have hopening : (Script.begin? (.curly dialect style) node (fun around =>
          Target.beginFunction? (.curly dialect style) around signature) around).steps =
            style.opening (Segment.textOf segments) := by
        simp [Script.begin?, Target.beginFunction?, ← htext]
      rw [hsteps, hwritten, hopening, List.nil_append]
      exact List.prefix_append _ _

/-- What a function writes begins with its documentation and its header. -/
theorem exists_functionHeader {header : FunctionHeader} {body : List Stmt}
    (h : ((StmtKind.functionDef header body).render (.curly dialect style) around).result =
      .ok ()) :
    ∃ (signature : Signature) (segments : List Segment),
      signature.name = header.name ∧ signature.isMethod = around.className.isSome ∧
      signature.params.map SignatureParam.name =
        (header.keptParams around.className.isSome).map Param.name ∧
      dialect.headerSegments? around signature = some segments ∧
      documentationSteps (.curly dialect style) body ++ style.opening (Segment.textOf segments) <+:
        ((StmtKind.functionDef header body).render (.curly dialect style) around).steps := by
  rw [StmtKind.render, renderDocumentation_eq] at h ⊢
  obtain ⟨_, -, h, hsteps⟩ := exists_of_bind_ok h
  rw [hsteps]
  obtain ⟨_, hself, h, hsteps⟩ := exists_of_bind_ok h
  obtain rfl := Except.ok.inj hself
  rw [hsteps]
  obtain ⟨returns, -, h, hsteps⟩ := exists_of_bind_ok h
  rw [hsteps]
  -- None of these steps leaves the surroundings, and the header is written in a scope of its own.
  obtain ⟨signature, segments, hname, hmethod, hparams, hsegments, hopening⟩ :=
    exists_opening around.pushScope h
  refine ⟨signature, segments, hname, hmethod, hparams, ?_, ?_⟩
  · rw [← hsegments]
    exact headerSegments_congr rfl signature
  · exact (List.prefix_append_right_inj _).mpr hopening

/-- What a class writes begins with its documentation and its header. -/
theorem exists_classHeader {name : String} {bases : List Expr} {body : List Stmt}
    (h : ((StmtKind.classDef name bases body).render (.curly dialect style) around).result =
      .ok ()) :
    ∃ baseTexts : List String,
      documentationSteps (.curly dialect style) body ++
          style.opening (Segment.textOf (dialect.classSegments name baseTexts)) <+:
        ((StmtKind.classDef name bases body).render (.curly dialect style) around).steps := by
  rw [StmtKind.render, renderDocumentation_eq] at h ⊢
  obtain ⟨_, -, h, hsteps⟩ := exists_of_bind_ok h
  rw [hsteps]
  obtain ⟨baseTexts, -, h, hsteps⟩ := exists_of_bind_ok h
  rw [hsteps]
  obtain ⟨_, -, -, hsteps⟩ := exists_of_bind_ok h
  rw [hsteps]
  refine ⟨baseTexts, (List.prefix_append_right_inj _).mpr ?_⟩
  rw [textOf_classSegments]
  exact List.prefix_append _ _

theorem steps_imports {names : List Alias}
    (h : ((StmtKind.imports names).render (.curly dialect style) around).result = .ok ()) :
    ((StmtKind.imports names).render (.curly dialect style) around).steps =
      names.map fun imported => .line (Segment.textOf imported.importSegments) := by
  rw [StmtKind.render] at h ⊢
  cases dialect with
  | cpp => cases h
  | typeScript typed =>
      simp [Target.imports?, Dialect.imports?, Script.emit?, Script.emit, textOf_importSegments]

theorem steps_importFrom {module : Option String} {names : List Alias}
    (h : ((StmtKind.importFrom module names).render (.curly dialect style) around).result =
      .ok ()) :
    ∃ source, module = some source ∧
      ((StmtKind.importFrom module names).render (.curly dialect style) around).steps =
        [.line (Segment.textOf (importFromSegments source names))] := by
  rw [StmtKind.render] at h ⊢
  cases dialect with
  | cpp => cases h
  | typeScript typed =>
      cases module with
      | none => cases h
      | some source =>
          refine ⟨source, rfl, ?_⟩
          rw [textOf_importFromSegments]
          rfl

end Statements

/-! ### What the uses of names are -/

/-- The word that stands for a name wherever it is used: a well-known name has the one of the
language, and inside a class `self` is the object. -/
def Dialect.word? (dialect : Dialect) (inside : Surroundings) (ident : String) : Option String :=
  match dialect.rename? ident with
  | some word => some word
  | none => if inside.inClass && ident == "self" then some "this" else none

/-- The names that can have a word, with all that the word can be. -/
def words : List (String × String) :=
  [("min", "std::min"), ("max", "std::max"), ("round", "std::round"), ("math", "Math"),
    ("NVector", "Vector"), ("min", "Math.min"), ("max", "Math.max"), ("self", "this")]

section Uses

variable {dialect : Dialect} {style : BraceStyle} {inside : Surroundings} {ident word : String}

theorem nameText_eq (asType : Bool) :
    (Target.curly dialect style).nameText inside ident asType =
      (dialect.word? inside ident).getD (dialect.styledName ident) := by
  rw [Target.nameText, Dialect.name, Dialect.word?]
  cases dialect.rename? ident with
  | some word => rfl
  | none => cases inside.inClass && ident == "self" <;> rfl

theorem mem_words_of_rename? (h : dialect.rename? ident = some word) : (ident, word) ∈ words := by
  unfold Dialect.rename? at h
  split at h
  · split at h
    · next hmem =>
        obtain rfl := Option.some.inj h
        have hident : ident = "min" ∨ ident = "max" ∨ ident = "round" := by simpa using hmem
        rcases hident with rfl | rfl | rfl <;> decide
    · cases h
  · obtain rfl := Option.some.inj h
    decide
  · obtain rfl := Option.some.inj h
    decide
  · split at h
    · next hmem =>
        obtain rfl := Option.some.inj h
        have hident : ident = "min" ∨ ident = "max" := by simpa using hmem
        rcases hident with rfl | rfl <;> decide
    · cases h

theorem mem_words (h : dialect.word? inside ident = some word) : (ident, word) ∈ words := by
  rw [Dialect.word?] at h
  cases hrename : dialect.rename? ident with
  | some renamed =>
      obtain rfl : renamed = word := by simpa [hrename] using h
      exact mem_words_of_rename? hrename
  | none =>
      obtain ⟨⟨-, rfl⟩, rfl⟩ : (inside.inClass = true ∧ ident = "self") ∧ "this" = word := by
        simpa [hrename] using h
      decide

/-- A word does not begin as its name does, so it is not the name, however that is styled. -/
theorem ne_word (h : dialect.word? inside ident = some word) {written : String}
    (hwritten : ident.toList <+: written.toList) : word ≠ written := by
  have hdiffer : ∀ pair ∈ words, pair.1 ≠ "" ∧ pair.2.toList.head? ≠ pair.1.toList.head? := by
    decide
  obtain ⟨hident, hhead⟩ := hdiffer _ (mem_words h)
  obtain ⟨rest, hrest⟩ := hwritten
  rintro rfl
  refine hhead ?_
  rw [← hrest, List.head?_append_of_ne_nil]
  simpa using hident

theorem styledName_of_word (h : dialect.word? inside ident = some word) :
    dialect.styledName ident = ident := by
  have hstyled : ∀ pair ∈ words, ∀ dialect : Dialect, dialect.styledName pair.1 = pair.1 := by
    intro pair hpair dialect
    fin_cases hpair <;> cases dialect <;> rfl
  exact hstyled _ (mem_words h) dialect

/-- Where a name is styled, its uses read alike unless there is a word for it. -/
theorem styled_readsAlike_iff :
    (dialect.styled ident).ReadsAlike (.curly dialect style) inside ↔
      dialect.word? inside ident = none := by
  rw [Binder.ReadsAlike, nameText_eq, Dialect.styled]
  cases hword : dialect.word? inside ident with
  | none => simp
  | some word =>
      have hne : word ≠ dialect.styledName ident :=
        ne_word hword (by rw [styledName_of_word hword])
      simpa using hne

/-- Where a name is written as it stands, perhaps with more behind it, its uses are as they are
styled. -/
theorem readsAlike_iff_of_stem {binder : Binder}
    (hwritten : binder.ident.toList <+: binder.written.toList) :
    binder.ReadsAlike (.curly dialect style) inside ↔
      dialect.word? inside binder.ident = none ∧
        dialect.styledName binder.ident = binder.written := by
  rw [Binder.ReadsAlike, nameText_eq]
  cases hword : dialect.word? inside binder.ident with
  | none => simp
  | some word => simpa using ne_word hword hwritten

theorem raw_readsAlike_iff :
    (Binder.raw ident).ReadsAlike (.curly dialect style) inside ↔
      dialect.word? inside ident = none ∧ dialect.Keeps ident := by
  rw [readsAlike_iff_of_stem List.prefix_rfl, ← styledName_eq_self_iff]
  rfl

theorem Alias.prefix_binder (imported : Alias) :
    imported.binder.ident.toList <+: imported.binder.written.toList := by
  obtain ⟨name, asname⟩ := imported
  cases asname with
  | some asname => exact List.prefix_rfl
  | none =>
      rw [Alias.binder, Option.getD_none, Option.getD_none, String.toList_ofList]
      exact List.takeWhile_prefix _

/-- A path is written as a whole, and no name reads like that. -/
theorem Alias.readsAlike_iff (imported : Alias) :
    imported.binder.ReadsAlike (.curly dialect style) inside ↔
      imported.binder.written = imported.binder.ident ∧
        dialect.word? inside imported.binder.ident = none ∧
        dialect.Keeps imported.binder.ident := by
  rw [readsAlike_iff_of_stem imported.prefix_binder, ← styledName_eq_self_iff]
  constructor
  · rintro ⟨hword, hstyled⟩
    have hwhole : imported.binder.written = imported.binder.ident := by
      obtain ⟨name, asname⟩ := imported
      cases asname with
      | some asname => rfl
      | none =>
          have hname : ∀ c ∈ name.toList, c ≠ '.' := by
            have hident : ∀ c ∈ (Alias.binder ⟨name, none⟩).ident.toList, c ≠ '.' := by
              intro c hc
              have hkept : c ∈ name.toList.takeWhile (· != '.') := by simpa [Alias.binder] using hc
              simpa using List.mem_takeWhile_imp hkept
            have hdots : ∀ c ∈ (dialect.styledName (Alias.binder ⟨name, none⟩).ident).toList,
                c ≠ '.' :=
              forall_mem_styledName (by decide) (fun c hupper => by rintro rfl; cases hupper)
                dialect hident
            rwa [hstyled] at hdots
          have hall : name.toList.takeWhile (· != '.') = name.toList :=
            List.takeWhile_eq_self_iff.mpr fun c hc => by simpa using hname c hc
          simp [Alias.binder, hall]
    exact ⟨hwhole, hword, hstyled.trans hwhole⟩
  · rintro ⟨hwhole, hword, hstyled⟩
    exact ⟨hword, hstyled.trans hwhole.symm⟩

theorem receiver_reads_this_iff (hinside : inside.inClass = true)
    (hreceiver : ident = "self" ∨ ident = "cls") :
    (Target.curly dialect style).nameText inside ident false = "this" ↔ ident = "self" := by
  rcases hreceiver with rfl | rfl
  · exact iff_of_true (Dialect.name_self hinside) rfl
  · have hword : dialect.word? inside "cls" = none := by
      cases dialect <;> simp [Dialect.word?, Dialect.rename?]
    have hstyled : dialect.styledName "cls" = "cls" := by cases dialect <;> rfl
    rw [nameText_eq, hword, Option.getD_none, hstyled]
    decide

end Uses

/-- **Binding and use.** The headers of functions and classes and the lines of imports are made of
segments with every name that is bound. Functions and the parameters that stay have the spelling of
their uses, unless there is a word for the name; classes and imports have it only if, besides, the
name is one that styling leaves as it is, and of a path only if there is no more than the name. Of the
receivers that a signature leaves out `self` reads as `this`, also throughout the body of the class,
and `cls` does not. -/
theorem binders_read_as_uses (dialect : Dialect) (style : BraceStyle) :
    (∀ (header : FunctionHeader) (body : List Stmt) (around : Surroundings),
      ((StmtKind.functionDef header body).render (.curly dialect style) around).result = .ok () →
      ∃ (signature : Signature) (segments : List Segment),
        dialect.headerSegments? around signature = some segments ∧
        documentationSteps (.curly dialect style) body ++
            style.opening (Segment.textOf segments) <+:
          ((StmtKind.functionDef header body).render (.curly dialect style) around).steps ∧
        Segment.binders segments =
          (header.boundNames around.className.isSome).map dialect.styled) ∧
    (∀ (name : String) (bases : List Expr) (body : List Stmt) (around : Surroundings),
      ((StmtKind.classDef name bases body).render (.curly dialect style) around).result = .ok () →
      ∃ baseTexts : List String,
        documentationSteps (.curly dialect style) body ++
            style.opening (Segment.textOf (dialect.classSegments name baseTexts)) <+:
          ((StmtKind.classDef name bases body).render (.curly dialect style) around).steps ∧
        Segment.binders (dialect.classSegments name baseTexts) = [.raw name]) ∧
    (∀ (names : List Alias) (around : Surroundings),
      ((StmtKind.imports names).render (.curly dialect style) around).result = .ok () →
      ((StmtKind.imports names).render (.curly dialect style) around).steps =
          names.map (fun imported => .line (Segment.textOf imported.importSegments)) ∧
        ∀ imported ∈ names, Segment.binders imported.importSegments = [imported.binder]) ∧
    (∀ (module : Option String) (names : List Alias) (around : Surroundings),
      ((StmtKind.importFrom module names).render (.curly dialect style) around).result = .ok () →
      ∃ source,
        ((StmtKind.importFrom module names).render (.curly dialect style) around).steps =
          [.line (Segment.textOf (importFromSegments source names))] ∧
        Segment.binders (importFromSegments source names) =
          (names.filterMap Alias.ident?).map Binder.raw) ∧
    (∀ (inside : Surroundings) (ident : String),
      ((dialect.styled ident).ReadsAlike (.curly dialect style) inside ↔
        dialect.word? inside ident = none) ∧
      ((Binder.raw ident).ReadsAlike (.curly dialect style) inside ↔
        dialect.word? inside ident = none ∧ dialect.Keeps ident)) ∧
    (∀ (inside : Surroundings) (imported : Alias),
      imported.binder.ReadsAlike (.curly dialect style) inside ↔
        imported.binder.written = imported.binder.ident ∧
          dialect.word? inside imported.binder.ident = none ∧
          dialect.Keeps imported.binder.ident) ∧
    (∀ (header : FunctionHeader) (isMethod : Bool) (inside : Surroundings),
      inside.inClass = true → ∀ receiver ∈ header.elidedParams isMethod,
        ((Target.curly dialect style).nameText inside receiver.name false = "this" ↔
          receiver.name = "self")) ∧
    ∀ (name : String) (bases : List Expr) (body : List Stmt) (around : Surroundings),
      let written := (StmtKind.classDef name bases body).render (.curly dialect style) around
      let respelled := (StmtKind.classDef name bases (Stmt.renamedAll receiverName body)).render
        (.curly dialect style) around
      respelled.result.toOption = written.result.toOption ∧ respelled.steps = written.steps := by
  refine ⟨?functionDef, ?classDef, ?imports, ?importFrom,
    fun inside ident => ⟨styled_readsAlike_iff, raw_readsAlike_iff⟩,
    fun inside imported => imported.readsAlike_iff, ?receiver, ?respelled⟩
  case functionDef =>
    intro header body around h
    obtain ⟨signature, segments, hname, hmethod, hparams, hsegments, hwritten⟩ :=
      exists_functionHeader h
    refine ⟨signature, segments, hsegments, hwritten, ?_⟩
    rw [binders_headerSegments hsegments, Signature.boundNames, FunctionHeader.boundNames, hname,
      hmethod, hparams]
  case classDef =>
    intro name bases body around h
    obtain ⟨baseTexts, hwritten⟩ := exists_classHeader h
    exact ⟨baseTexts, hwritten, binders_classSegments name baseTexts⟩
  case imports =>
    intro names around h
    exact ⟨steps_imports h, fun imported _ => rfl⟩
  case importFrom =>
    intro module names around h
    obtain ⟨source, -, hsteps⟩ := steps_importFrom h
    exact ⟨source, hsteps, binders_importFromSegments source names⟩
  case receiver =>
    intro header isMethod inside hinside receiver hreceiver
    exact receiver_reads_this_iff hinside (header.name_of_mem_elidedParams hreceiver)
  case respelled =>
    intro name bases body around
    have halike : Surroundings.Alike false around around := ⟨rfl, rfl, fun h => by cases h⟩
    obtain ⟨hresult, hsteps, -⟩ :=
      renderClass_alike dialect style name bases body around around halike
    exact ⟨hresult, hsteps⟩

/-- A method with a parameter that is used in it, its class, and imports, all with names that read
alike. -/
theorem binders_read_as_uses_method :
    let header : FunctionHeader :=
      ⟨"add_vertex", [⟨"self", none⟩, ⟨"at_end", none⟩], [], none, [], false⟩
    let body : List Stmt := [.mk 2 (.returning (some (.name "at_end")))]
    let inside : Surroundings := Surroundings.outermost.enter (some "Shape")
    (∃ (signature : Signature) (segments : List Segment),
      (Dialect.typeScript true).headerSegments? inside signature = some segments ∧
      documentationSteps .typeScript body ++ BraceStyle.kAndR.opening (Segment.textOf segments) <+:
        ((StmtKind.functionDef header body).render .typeScript inside).steps ∧
      Segment.binders segments = [⟨"add_vertex", "addVertex"⟩, ⟨"at_end", "atEnd"⟩]) ∧
    (Binder.mk "at_end" "atEnd").ReadsAlike .typeScript inside ∧
    (∃ baseTexts : List String,
      BraceStyle.kAndR.opening
          (Segment.textOf ((Dialect.typeScript true).classSegments "Shape" baseTexts)) <+:
        ((StmtKind.classDef "Shape" [] [.mk 2 .pass]).render .typeScript .outermost).steps ∧
      Segment.binders ((Dialect.typeScript true).classSegments "Shape" baseTexts) =
        [.raw "Shape"]) ∧
    ((StmtKind.imports [⟨"shapes", none⟩]).render .typeScript .outermost).steps =
      [.line "import * as shapes from 'shapes';"] ∧
    (∃ source, ((StmtKind.importFrom (some "shapes") [⟨"Shape", none⟩]).render .typeScript
        .outermost).steps = [.line (Segment.textOf (importFromSegments source [⟨"Shape", none⟩]))] ∧
      Segment.binders (importFromSegments source [⟨"Shape", none⟩]) = [.raw "Shape"]) ∧
    (Binder.raw "Shape").ReadsAlike .typeScript .outermost ∧
    Target.typeScript.nameText inside "self" false = "this" := by
  intro header body inside
  obtain ⟨functions, classes, imports, importsFrom, alike, -, receivers, -⟩ :=
    binders_read_as_uses (.typeScript true) .kAndR
  have hkeeps : (Dialect.typeScript true).Keeps "Shape" :=
    (styledName_eq_self_iff (.typeScript true) "Shape").mp rfl
  have hnames : (header.boundNames true).map (Dialect.typeScript true).styled =
      [⟨"add_vertex", "addVertex"⟩, ⟨"at_end", "atEnd"⟩] := by decide +kernel
  refine ⟨hnames ▸ functions header body inside rfl, (alike inside "at_end").1.mpr rfl,
    classes "Shape" [] [.mk 2 .pass] .outermost rfl, ?_,
    importsFrom (some "shapes") [⟨"Shape", none⟩] .outermost rfl,
    (alike .outermost "Shape").2.mpr ⟨rfl, hkeeps⟩, ?_⟩
  · exact (imports [⟨"shapes", none⟩] .outermost rfl).1
  · exact (receivers header true inside rfl ⟨"self", none⟩ (List.mem_singleton.mpr rfl)).mpr rfl

/-- The names of classes and imports are not styled where they are bound, a path is bound by its first
part, `cls` is not the object, and a parameter with the name of a well-known function is taken for
that function. -/
theorem class_and_import_read_otherwise :
    let called (callee : Expr) : Stmt := .mk 3 (.expr (.call callee []))
    let method : Stmt := .mk 2 (.functionDef ⟨"f", [⟨"cls", none⟩], [], none, [], false⟩
      [.mk 3 (.returning (some (.name "cls")))])
    let chosen : Stmt := .mk 1 (.functionDef ⟨"f", [⟨"min", none⟩], [], none, [], false⟩
      [.mk 2 (.returning (some (.name "min")))])
    (Program.mk [.mk 1 (.classDef "my_class" [] [.mk 2 .pass]),
        called (.name "my_class")]).render .typeScript .standard [] =
      .ok ⟨"class my_class \x7b\n\x7d\nmyClass();\n", true⟩ ∧
    (Program.mk [.mk 1 (.imports [⟨"my_mod", none⟩]),
        called (.member (.name "my_mod") "f")]).render .typeScript .standard [] =
      .ok ⟨"import * as my_mod from 'my_mod';\nmyMod.f();\n", true⟩ ∧
    (Program.mk [.mk 1 (.imports [⟨"os.path", none⟩]),
        called (.member (.member (.name "os") "path") "join")]).render .typeScript .standard [] =
      .ok ⟨"import * as os.path from 'os.path';\nos.path.join();\n", true⟩ ∧
    (Program.mk [.mk 1 (.classDef "A" [] [method])]).render .cpp .standard [] =
      .ok ⟨"class A\n\x7b\n    void f()\n    \x7b\n        return cls;\n    \x7d\n\x7d;\n", true⟩ ∧
    (Program.mk [chosen]).render .cpp .standard [] =
      .ok ⟨"void f(auto min)\n\x7b\n    return std::min;\n\x7d\n", true⟩ := by
  refine ⟨?_, ?_, ?_, ?_, ?_⟩ <;> rfl

end Snippet
