import Snippet.Proofs.Outline.Expr
import Snippet.Proofs.Outline.Piece

/-!
# The forms of statements

Headers, declarations and the other lines that statements become are texts of code when the texts
and the names in them are.
-/

namespace Snippet

open Layout (BraceStyle Step)
open Render
open Text (argumentsOf? init? rest?_eq_some_iff)

variable {Code : String → Prop} {dialect : Dialect}

structure SignatureParam.Spelled (dialect : Dialect) (Code : String → Prop)
    (param : SignatureParam) : Prop where
  name : dialect.SpellsName Code param.name
  hint : ∀ text ∈ param.hint, Code text
  default : ∀ text ∈ param.default, Code text

structure Signature.Spelled (dialect : Dialect) (Code : String → Prop) (signature : Signature) :
    Prop where
  name : dialect.SpellsName Code signature.name
  params : ∀ param ∈ signature.params, param.Spelled dialect Code
  returns : ∀ text ∈ signature.returns, Code text

structure Declaration.Spelled (Code : String → Prop) (declaration : Declaration) : Prop where
  target : Code declaration.target
  hint : Code declaration.hint
  value : ∀ text ∈ declaration.value, Code text

theorem code_getD {text : Option String} (h : ∀ found ∈ text, Code found) {other : String}
    (hother : Code other) : Code (text.getD other) := by
  cases text with
  | none => exact hother
  | some found => exact h found rfl

theorem eq_of_argumentsOf?_eq_some {name text arguments : List Char}
    (h : argumentsOf? name text = some arguments) : text = name ++ '(' :: (arguments ++ [')']) := by
  obtain ⟨rest, hrest, hlast⟩ := Option.bind_eq_some_iff.mp h
  rw [rest?_eq_some_iff] at hrest
  rw [init?] at hlast
  obtain ⟨hclose, hsome⟩ := Option.ite_none_right_eq_some.mp hlast
  obtain rfl := Option.some.inj hsome
  obtain ⟨arguments, rfl⟩ := List.getLast?_eq_some_iff.mp hclose
  simp [hrest]

namespace CodeLaw

variable (law : CodeLaw Code)

include law

/-- A text in parentheses with blanks inside, after the start of a header. -/
theorem header {start text : String} (hstart : Code start) (h : Code text) :
    Code (start ++ "( " ++ text ++ " )") := by
  have hspaced := law.append (law.append (law.plain rfl : Code " ") h) (law.plain rfl : Code " ")
  exact respelled (law.append hstart (law.group hspaced)) (by simp)

theorem statement {text : String} (h : Code text) : Code (text ++ ";") :=
  law.append h (law.plain rfl)

theorem classHeader {name : String} {bases : List String} (hname : Code name)
    (h : ∀ text ∈ bases, Code text) : Code (dialect.classHeader name bases) := by
  have hplain : Code ("class " ++ name) := law.append (law.plain rfl) hname
  rw [Dialect.classHeader.eq_def]
  split
  · exact hplain
  · refine law.between hplain " : " (law.commaList fun text htext => ?_) rfl
    obtain ⟨base, hbase, rfl⟩ := List.mem_map.mp htext
    exact law.append (law.plain rfl) (h base hbase)
  · exact law.between hplain " extends " (law.commaList h) rfl

theorem parameter {param : SignatureParam} (h : param.Spelled dialect Code) :
    Code (dialect.parameter param) := by
  have hname := h.name.2
  rw [Dialect.parameter.eq_def]
  dsimp only
  split
  · exact law.between (code_getD h.hint (law.plain rfl)) " " hname rfl
  · next text hhint => exact law.between hname ": " (h.hint _ hhint) rfl
  · exact hname

theorem parameterList {params : List SignatureParam}
    (h : ∀ param ∈ params, param.Spelled dialect Code) :
    Code (Dialect.parameterList dialect.parameter params) := by
  refine law.commaList fun text htext => ?_
  obtain ⟨param, hparam, rfl⟩ := List.mem_map.mp htext
  have hspelled := law.parameter (h param hparam)
  split
  · next default hdefault =>
      exact law.between hspelled " = " ((h param hparam).default _ hdefault) rfl
  · exact hspelled

theorem typeScriptHeader {typed : Bool} {signature : Signature}
    (h : signature.Spelled (.typeScript typed) Code) :
    Code (Dialect.typeScriptFunctionHeader typed signature) := by
  have hname := h.name.2
  rw [Dialect.typeScriptFunctionHeader.eq_def]
  refine law.append (law.enclosed (law.append ?_ ?_) (law.parameterList h.params)) ?_
  · split <;> exact law.plain rfl
  · split
    · exact law.append (law.plain rfl) hname
    · split
      · exact law.plain rfl
      · split
        · exact law.plain rfl
        · refine law.append ?_ hname
          split <;> exact law.plain rfl
  · split
    · next text hreturns => exact law.append (law.plain rfl) (h.returns _ hreturns)
    · exact law.plain rfl

theorem functionHeader {around : Surroundings} {signature : Signature} {text : String}
    (haround : ∀ name ∈ around.className, Code name) (h : signature.Spelled dialect Code)
    (hheader : dialect.functionHeader? around signature = some text) : Code text := by
  have hparams := law.group (law.parameterList h.params)
  cases dialect with
  | cpp =>
      rw [Dialect.functionHeader?, Dialect.cppFunctionHeader?] at hheader
      split at hheader
      · cases hheader
      · split at hheader
        · obtain ⟨name, hname, rfl⟩ := Option.map_eq_some_iff.mp hheader
          exact law.append (haround name hname) hparams
        · split at hheader
          · obtain rfl := Option.some.inj hheader
            exact law.append (law.append (law.plain rfl) hparams) (law.plain rfl)
          · obtain rfl := Option.some.inj hheader
            have hreturns : Code (signature.returns.getD "void") :=
              code_getD h.returns (law.plain rfl)
            exact law.append (law.between hreturns " " h.name.2 rfl) hparams
  | typeScript typed =>
      obtain rfl := Option.some.inj hheader
      exact law.typeScriptHeader h

theorem cppDeclaration {declaration : Declaration} (h : declaration.Spelled Code) :
    Code (Dialect.cppDeclaration declaration) := by
  obtain ⟨htarget, hhint, hvalue⟩ := h
  have hstart := law.between hhint " " htarget rfl
  rw [Dialect.cppDeclaration]
  cases hfound : declaration.value with
  | none => exact law.statement hstart
  | some value =>
      have hplain := law.statement (law.between hstart " = " (hvalue value hfound) rfl)
      dsimp only
      split
      · split
        · next arguments harguments =>
            -- The arguments need not be code by themselves, but with their parentheses they are.
            have hcall : Code ("(" ++ String.ofList arguments ++ ")") := by
              refine law.cancel hhint (respelled (hvalue value hfound) ?_)
              simpa using (eq_of_argumentsOf?_eq_some harguments).symm
            exact respelled (law.statement (law.append hstart hcall)) (by simp)
        · exact hplain
      · exact hplain

theorem declaration {around : Surroundings} {declaration : Declaration}
    (h : declaration.Spelled Code) : Code (dialect.declaration around declaration) := by
  cases dialect with
  | cpp => exact law.cppDeclaration h
  | typeScript typed =>
      rw [Dialect.declaration, Dialect.typeScriptDeclaration]
      refine law.statement (law.append (law.append (law.append ?_ h.target) ?_) ?_)
      · split <;> exact law.plain rfl
      · split
        · exact law.append (law.plain rfl) h.hint
        · exact law.plain rfl
      · split
        · next value hvalue => exact law.append (law.plain rfl) (h.value _ hvalue)
        · exact law.plain rfl

theorem countingLoop {item text : String} {bounds : Bounds} (hitem : Code item)
    (h : bounds.Spelled Code) (hloop : dialect.countingLoop? item bounds = some text) :
    Code text := by
  obtain ⟨start, last, step⟩ := bounds
  obtain ⟨hstart, hstop, hstep⟩ := h
  obtain ⟨stop, hstopped, rfl⟩ := Option.map_eq_some_iff.mp hloop
  have hzero : Code (dialect.constant (.int 0) false) := by
    rcases dialect with _ | ⟨_ | _⟩ <;> exact law.plain rfl
  have htype : Code dialect.counterType := by
    rcases dialect with _ | ⟨_ | _⟩ <;> exact law.plain rfl
  have hfirst := law.between (law.between htype " " hitem rfl) " = " (code_getD hstart hzero) rfl
  have htest := law.between hitem " < " (hstop stop hstopped) rfl
  have hbounds := law.between hfirst "; " htest rfl
  have hfor : Code "for " := law.plain rfl
  cases step with
  | none =>
      have hupdate : Code (item ++ "++") := law.append hitem (law.plain rfl)
      exact respelled (law.header hfor (law.between hbounds "; " hupdate rfl))
        (by simp [Bounds.fillDefaults])
  | some step =>
      have hupdate := law.between hitem " += " (hstep step rfl) rfl
      exact respelled (law.header hfor (law.between hbounds "; " hupdate rfl))
        (by simp [Bounds.fillDefaults])

theorem eachLoop {item items text : String} {isAsync : Bool} (hitem : Code item)
    (hitems : Code items) (hloop : dialect.eachLoop? item items isAsync = some text) :
    Code text := by
  cases dialect with
  | cpp =>
      rw [Dialect.eachLoop?] at hloop
      split at hloop
      · cases hloop
      · obtain rfl := Option.some.inj hloop
        have hfirst := law.append (law.plain rfl : Code "const auto& ") hitem
        have hinner := law.between hfirst " : " hitems rfl
        exact respelled (law.header (law.plain rfl : Code "for ") hinner) (by simp)
  | typeScript typed =>
      obtain rfl := Option.some.inj hloop
      have hstart : Code ("for " ++ if isAsync = true then "await " else "") := by
        cases isAsync <;> exact law.plain rfl
      have hinner := law.between (law.append (law.plain rfl : Code "let ") hitem) " of " hitems rfl
      exact respelled (law.header hstart hinner) (by simp)

theorem forHeader {item text : String} {items : LoopItems} {isAsync : Bool} (hitem : Code item)
    (hitems : items.Spelled Code) (hloop : dialect.forHeader? item items isAsync = some text) :
    Code text := by
  cases items with
  | range bounds call =>
      rw [Dialect.forHeader?] at hloop
      split at hloop
      · cases hloop
      · exact law.countingLoop hitem hitems hloop
  | items found => exact law.eachLoop hitem hitems hloop

theorem importLine {imported : Alias} (hname : Code imported.name)
    (hasname : ∀ asname ∈ imported.asname, Code asname) : Code (Dialect.importLine imported) := by
  have hstart := law.append (law.plain rfl : Code "import * as ") (code_getD hasname hname)
  exact law.append (law.between hstart " from '" hname rfl) (law.plain rfl)

theorem imports {names : List Alias}
    (h : ∀ imported ∈ names, Code imported.name ∧ ∀ asname ∈ imported.asname, Code asname) :
    ∀ texts ∈ dialect.imports? names, ∀ text ∈ texts, Code text := by
  intro texts htexts text htext
  cases dialect with
  | cpp => cases htexts
  | typeScript typed =>
      obtain rfl := Option.some.inj htexts
      obtain ⟨imported, himported, rfl⟩ := List.mem_map.mp htext
      exact law.importLine (h imported himported).1 (h imported himported).2

theorem importedName {imported : Alias} (hname : Code imported.name)
    (hasname : ∀ asname ∈ imported.asname, Code asname) : Code (Dialect.importedName imported) := by
  rw [Dialect.importedName]
  split
  · next asname hfound => exact law.between hname " as " (hasname _ hfound) rfl
  · exact hname

theorem importsFrom {module : Option String} {names : List Alias}
    (hmodule : ∀ found ∈ module, Code found)
    (h : ∀ imported ∈ names, Code imported.name ∧ ∀ asname ∈ imported.asname, Code asname) :
    ∀ texts ∈ dialect.importFrom? module names, ∀ text ∈ texts, Code text := by
  intro texts htexts text htext
  cases dialect with
  | cpp => cases htexts
  | typeScript typed =>
      obtain ⟨found, hfound, rfl⟩ := Option.map_eq_some_iff.mp htexts
      obtain rfl := List.mem_singleton.mp htext
      have hnames : Code (Snippet.commaList (names.map Dialect.importedName)) := by
        refine law.commaList fun text htext => ?_
        obtain ⟨imported, himported, rfl⟩ := List.mem_map.mp htext
        exact law.importedName (h imported himported).1 (h imported himported).2
      have hspace : Code " " := law.plain rfl
      have hspaced := law.append (law.append hspace hnames) hspace
      have hstart := law.append (law.plain rfl : Code "import ") (law.braces hspaced)
      have hline := law.between hstart " from '" (hmodule found hfound) rfl
      exact respelled (law.append hline (law.plain rfl : Code "';")) (by simp)

theorem delete {targets : List String} (h : ∀ text ∈ targets, Code text) :
    ∀ line ∈ dialect.delete targets, Code line := by
  cases dialect with
  | cpp =>
      intro line hline
      obtain rfl := List.mem_singleton.mp hline
      exact law.statement (law.append (law.plain rfl) (law.commaList h))
  | typeScript typed =>
      intro line hline
      obtain ⟨text, htext, rfl⟩ := List.mem_map.mp hline
      exact law.statement (law.append (law.plain rfl) (h text htext))

theorem typeAlias {name value : String} (hname : Code name) (hvalue : Code value) :
    Code (dialect.typeAlias name value) := by
  cases dialect with
  | cpp => exact law.statement (law.between (law.append (law.plain rfl) hname) " = " hvalue rfl)
  | typeScript typed =>
      exact law.statement (law.between (law.append (law.plain rfl) hname) " = " hvalue rfl)

end CodeLaw

end Snippet
