import Mathlib.Data.List.Forall2
import Snippet.Proofs.Refusal.Settled
import Snippet.Proofs.Walk
import Snippet.Source.Statement

/-!
# Every default goes to its own parameter

The reader puts the defaults of a parameter list into a list of their own, and a signature finds them
again by counting from its end. Where the parameters with defaults come last, counting finds for each
parameter the default that stands beside it in the source. A receiver that is left out moves no
default, as places are counted in the whole list.
-/

namespace Snippet

open Render Script
open Source (Node ReadError)
open Source.Node (readParameters)

/-! ### Counting from the end -/

/-- The place of a default is an exact difference, which exists where neither subtraction goes below
zero. -/
theorem defaultIndex_eq_some_iff {params defaults index place : Nat} :
    defaultIndex params defaults index = some place ↔
      index ≤ params ∧ params - index ≤ defaults ∧ place = defaults - (params - index) := by
  unfold defaultIndex
  constructor
  · intro h
    split at h
    · next hfits =>
        rw [Bool.and_eq_true, decide_eq_true_iff, decide_eq_true_iff] at hfits
        exact ⟨hfits.1, hfits.2, (Option.some.inj h).symm⟩
    · cases h
  · rintro ⟨hindex, hfew, rfl⟩
    rw [if_pos (by simp [hindex, hfew])]

theorem defaultIndex_eq_none_iff {params defaults index : Nat} :
    defaultIndex params defaults index = none ↔ params < index ∨ defaults < params - index := by
  unfold defaultIndex
  split
  · next hfits =>
      rw [Bool.and_eq_true, decide_eq_true_iff, decide_eq_true_iff] at hfits
      simp only [reduceCtorEq, false_iff]
      omega
  · next hfits =>
      rw [Bool.and_eq_true, decide_eq_true_iff, decide_eq_true_iff] at hfits
      simp only [true_iff]
      omega

section Counting

variable {α β : Type}

theorem length_filterMap_of_isSome {items : List (α × Option β)}
    (h : ∀ item ∈ items, item.2.isSome = true) :
    (items.filterMap Prod.snd).length = items.length := by
  induction items with
  | nil => rfl
  | cons item rest ih =>
      obtain ⟨hitem, hrest⟩ := List.forall_mem_cons.mp h
      obtain ⟨value, hvalue⟩ := Option.isSome_iff_exists.mp hitem
      rw [List.filterMap_cons_some hvalue, List.length_cons, List.length_cons, ih hrest]

theorem getElem?_filterMap_of_isSome {items : List (α × Option β)}
    (h : ∀ item ∈ items, item.2.isSome = true) (index : Nat) :
    (items.filterMap Prod.snd)[index]? = items[index]?.bind Prod.snd := by
  induction items generalizing index with
  | nil => rfl
  | cons item rest ih =>
      obtain ⟨hitem, hrest⟩ := List.forall_mem_cons.mp h
      obtain ⟨value, hvalue⟩ := Option.isSome_iff_exists.mp hitem
      rw [List.filterMap_cons_some hvalue]
      cases index with
      | zero => exact hvalue.symm
      | succ index => exact ih hrest index

/-- Where the items with a value come last, counting from the end finds each item's own value. -/
theorem getElem?_filterMap_defaultIndex {items : List (α × Option β)}
    (h : items.Pairwise fun earlier later => earlier.2.isSome = true → later.2.isSome = true)
    (index : Nat) :
    (defaultIndex items.length (items.filterMap Prod.snd).length index).bind
        ((items.filterMap Prod.snd)[·]?) = items[index]?.bind Prod.snd := by
  induction items generalizing index with
  | nil =>
      unfold defaultIndex
      split <;> rfl
  | cons item rest ih =>
      obtain ⟨hitem, hrest⟩ := List.pairwise_cons.mp h
      cases hvalue : item.2 with
      | none =>
          -- The item adds nothing, and one more to count past.
          rw [List.filterMap_cons_none hvalue, List.length_cons]
          cases index with
          | zero =>
              have hfew := List.length_filterMap_le Prod.snd rest
              have hnone : defaultIndex (rest.length + 1) (rest.filterMap Prod.snd).length 0 =
                  none := defaultIndex_eq_none_iff.mpr (.inr (by omega))
              rw [hnone]
              exact hvalue.symm
          | succ index =>
              have hsame : defaultIndex (rest.length + 1) (rest.filterMap Prod.snd).length
                  (index + 1) = defaultIndex rest.length (rest.filterMap Prod.snd).length index := by
                simp only [defaultIndex, Nat.add_sub_add_right, Nat.add_le_add_iff_right]
              rw [hsame]
              exact ih hrest index
      | some value =>
          -- All items have a value from here on, so places in both lists are the same.
          have hall : ∀ other ∈ item :: rest, other.2.isSome = true := by
            have hsome : item.2.isSome = true := by rw [hvalue]; rfl
            exact List.forall_mem_cons.mpr ⟨hsome, fun other hother => hitem other hother hsome⟩
          rw [length_filterMap_of_isSome hall, ← getElem?_filterMap_of_isSome hall]
          by_cases hindex : index ≤ (item :: rest).length
          · have hplace : defaultIndex (item :: rest).length (item :: rest).length index =
                some index := defaultIndex_eq_some_iff.mpr ⟨hindex, by omega, by omega⟩
            rw [hplace]
            rfl
          · have hnone : defaultIndex (item :: rest).length (item :: rest).length index = none :=
              defaultIndex_eq_none_iff.mpr (.inl (by omega))
            rw [hnone, List.getElem?_eq_none]
            · rfl
            · rw [length_filterMap_of_isSome hall]
              omega

end Counting

/-! ### Reading -/

namespace Source.Node

/-- A node written as a parameter: a name, and perhaps nodes for its annotation and its default. -/
inductive IsParameter : Node → String → Option Node → Option Node → Prop where
  | bare {node : Node} (hkind : node.kind = "identifier") : IsParameter node node.text none none
  | typed {node : Node} {name type : node.Inner} (hkind : node.kind = "typed_parameter")
      (hname : node.parts.head? = some name) (hplain : name.val.kind = "identifier")
      (htype : node.field? "type" = some type) :
      IsParameter node name.val.text (some type.val) none
  | default {node : Node} {name value : node.Inner} (hkind : node.kind = "default_parameter")
      (hname : node.field? "name" = some name) (hplain : name.val.kind = "identifier")
      (hvalue : node.field? "value" = some value) :
      IsParameter node name.val.text none (some value.val)
  | typedDefault {node : Node} {name type value : node.Inner}
      (hkind : node.kind = "typed_default_parameter") (hname : node.field? "name" = some name)
      (htype : node.field? "type" = some type) (hvalue : node.field? "value" = some value) :
      IsParameter node name.val.text (some type.val) (some value.val)

/-- The kinds of parameters exclude each other, and their fields say the rest. -/
theorem IsParameter.unique {node : Node} {name other : String} {hint type default value : Option Node}
    (h₁ : node.IsParameter name hint default) (h₂ : node.IsParameter other type value) :
    name = other ∧ hint = type ∧ default = value := by
  cases h₁ <;> cases h₂ <;> simp_all

/-- The name that a node written as a parameter has. -/
def parameterName? (node : Node) : Option String :=
  if node.kind = "identifier" then some node.text
  else if node.kind = "typed_parameter" then node.parts.head?.map (·.val.text)
  else (node.field? "name").map (·.val.text)

theorem IsParameter.parameterName? {node : Node} {name : String} {hint default : Option Node}
    (h : node.IsParameter name hint default) : node.parameterName? = some name := by
  cases h with
  | bare hkind => simp [Node.parameterName?, hkind]
  | typed hkind hname => simp [Node.parameterName?, hkind, hname]
  | default hkind hname | typedDefault hkind hname => simp [Node.parameterName?, hkind, hname]

/-- Whether a node is written with a default. -/
def hasDefault (node : Node) : Bool :=
  node.kind == "default_parameter" || node.kind == "typed_default_parameter"

/-- Behind a parameter with a default there is none without. -/
def DefaultsLast (nodes : List Node) : Prop :=
  nodes.Pairwise fun earlier later => earlier.hasDefault = true → later.hasDefault = true

/-- What is read of a part that a parameter may have. -/
inductive PartRead : Option Node → Option Expr → Prop where
  | absent : PartRead none none
  | present {node : Node} {expr : Expr} (h : node.readExpr = .ok expr) :
      PartRead (some node) (some expr)

/-- A parameter with its own default, both read in their place. -/
inductive Owns : Node → Param × Option Expr → Prop where
  | mk {node : Node} {name : String} {hint default : Option Node} {type value : Option Expr}
      (hwritten : node.IsParameter name hint default) (hhint : PartRead hint type)
      (hdefault : PartRead default value) : Owns node (⟨name, type⟩, value)

theorem IsParameter.isSome_default {node : Node} {name : String} {hint default : Option Node}
    (h : node.IsParameter name hint default) : default.isSome = node.hasDefault := by
  cases h with
  | bare hkind | typed hkind | default hkind | typedDefault hkind => simp [hasDefault, hkind]

theorem Owns.isSome_eq {node : Node} {own : Param × Option Expr} (h : node.Owns own) :
    own.2.isSome = node.hasDefault := by
  obtain ⟨hwritten, -, hdefault⟩ := h
  rw [← hwritten.isSome_default]
  cases hdefault <;> rfl

theorem field?_of_field {node : Node} {name : String} {inner : node.Inner}
    (h : node.field name = .ok inner) : node.field? name = some inner := by
  rw [field] at h
  split at h
  · next found hfound =>
      obtain rfl := Except.ok.inj h
      exact hfound
  · cases h

theorem owns_of_readParameter {node : Node} {own : Param × Option Expr}
    (h : node.readParameter = .ok own) : node.Owns own := by
  rw [readParameter] at h
  split at h
  · next hkind =>
      obtain rfl := Except.ok.inj h
      exact .mk (.bare hkind) .absent .absent
  · next hkind =>
      split at h
      · next name rest hparts =>
          split at h
          · next hplain =>
              obtain ⟨type, htype, h⟩ := exists_of_bind_eq_ok h
              obtain ⟨hint, hhint, h⟩ := exists_of_bind_eq_ok h
              obtain rfl := Except.ok.inj h
              have hname : node.parts.head? = some name := by rw [hparts, List.head?_cons]
              exact .mk (.typed hkind hname hplain (field?_of_field htype)) (.present hhint) .absent
          · cases h
      · cases h
  · next hkind =>
      obtain ⟨name, hname, h⟩ := exists_of_bind_eq_ok h
      split at h
      · cases h
      · next hplain =>
          obtain ⟨value, hvalue, h⟩ := exists_of_bind_eq_ok h
          obtain ⟨expr, hexpr, h⟩ := exists_of_bind_eq_ok h
          obtain rfl := Except.ok.inj h
          have hwritten := IsParameter.default hkind (field?_of_field hname)
            (Decidable.not_not.mp hplain) (field?_of_field hvalue)
          exact .mk hwritten .absent (.present hexpr)
  · next hkind =>
      obtain ⟨name, hname, h⟩ := exists_of_bind_eq_ok h
      obtain ⟨type, htype, h⟩ := exists_of_bind_eq_ok h
      obtain ⟨hint, hhint, h⟩ := exists_of_bind_eq_ok h
      obtain ⟨value, hvalue, h⟩ := exists_of_bind_eq_ok h
      obtain ⟨expr, hexpr, h⟩ := exists_of_bind_eq_ok h
      obtain rfl := Except.ok.inj h
      have hwritten := IsParameter.typedDefault hkind (field?_of_field hname)
        (field?_of_field htype) (field?_of_field hvalue)
      exact .mk hwritten (.present hhint) (.present hexpr)
  · cases h

/-- The two lists of a reading are the two sides of the parameters with their own defaults. -/
theorem exists_owns_of_readParameters {nodes : List Node} {params : List Param}
    {defaults : List Expr} (h : readParameters nodes = .ok (params, defaults)) :
    ∃ own, List.Forall₂ Owns nodes own ∧ params = own.map Prod.fst ∧
      defaults = own.filterMap Prod.snd := by
  induction nodes generalizing params defaults with
  | nil =>
      obtain ⟨rfl, rfl⟩ := Prod.mk.inj (Except.ok.inj h)
      exact ⟨[], .nil, rfl, rfl⟩
  | cons node rest ih =>
      rw [readParameters] at h
      obtain ⟨⟨param, value⟩, hfirst, h⟩ := exists_of_bind_eq_ok h
      obtain ⟨⟨others, values⟩, hrest, h⟩ := exists_of_bind_eq_ok h
      obtain ⟨rfl, rfl⟩ := Prod.mk.inj (Except.ok.inj h)
      obtain ⟨own, hown, rfl, rfl⟩ := ih hrest
      refine ⟨(param, value) :: own, .cons (owns_of_readParameter hfirst) hown, rfl, ?_⟩
      cases value <;> rfl

theorem DefaultsLast.owned {nodes : List Node} {own : List (Param × Option Expr)}
    (h : DefaultsLast nodes) (hown : List.Forall₂ Owns nodes own) :
    own.Pairwise fun earlier later => earlier.2.isSome = true → later.2.isSome = true := by
  induction hown with
  | nil => exact .nil
  | @cons node first nodes rest hfirst hrest ih =>
      obtain ⟨hlater, hpairs⟩ := List.pairwise_cons.mp h
      refine List.pairwise_cons.mpr ⟨fun other hother hsome => ?_, ih hpairs⟩
      obtain ⟨place, hplace, rfl⟩ := List.getElem_of_mem hother
      have hwritten : place < nodes.length := hrest.length_eq ▸ hplace
      have howns : (nodes[place]).Owns rest[place] := hrest.get hwritten hplace
      rw [howns.isSome_eq]
      rw [hfirst.isSome_eq] at hsome
      exact hlater _ (List.getElem_mem hwritten) hsome

end Source.Node

open Source.Node (DefaultsLast IsParameter Owns PartRead)

/-! ### Signatures -/

section Signatures

variable (target : Target) (around : Surroundings)

/-- A written part of a parameter and its text: there is one exactly where the other is. -/
inductive PartShown (asType : Bool) : Option Node → Option String → Prop where
  | absent : PartShown asType none none
  | present {node : Node} {expr : Expr} {text : String} (hread : node.readExpr = .ok expr)
      (hrender : expr.render target around asType = .ok text) :
      PartShown asType (some node) (some text)

/-- A parameter of a signature has the name, the type and the default of the written one. -/
inductive ParamShown : Node → SignatureParam → Prop where
  | mk {node : Node} {name : String} {hint default : Option Node} {type value : Option String}
      (hwritten : node.IsParameter name hint default)
      (hhint : PartShown target around true hint type)
      (hdefault : PartShown target around false default value) :
      ParamShown node ⟨name, type, value⟩

variable {target around}

theorem renderOptional_eq_ok_iff {asType : Bool} {node : Option Node} {expr : Option Expr}
    {text : Option String} (h : PartRead node expr) :
    Expr.renderOptional target around asType expr = .ok text ↔
      PartShown target around asType node text := by
  cases h with
  | absent =>
      constructor
      · intro hrender
        obtain rfl : none = text := Except.ok.inj hrender
        exact .absent
      · rintro ⟨⟩
        rfl
  | present hread =>
      constructor
      · intro hrender
        obtain ⟨shown, hshown, hsome⟩ := exists_of_bind_eq_ok hrender
        obtain rfl := Except.ok.inj hsome
        exact .present hread hshown
      · intro hpart
        cases hpart with
        | present hother hshown =>
            obtain rfl := Except.ok.inj (hread.symm.trans hother)
            rw [Expr.renderOptional, hshown]
            rfl

/-- A parameter is shown where both its parts are. -/
theorem paramShown_iff {node : Node} {own : Param × Option Expr} (h : node.Owns own)
    {shown : SignatureParam} :
    ParamShown target around node shown ↔
      Expr.renderOptional target around true own.1.hint = .ok shown.hint ∧
        Expr.renderOptional target around false own.2 = .ok shown.default ∧
          own.1.name = shown.name := by
  obtain ⟨hwritten, hhint, hdefault⟩ := h
  constructor
  · rintro ⟨hother, htype, hvalue⟩
    obtain ⟨rfl, rfl, rfl⟩ := hwritten.unique hother
    exact ⟨(renderOptional_eq_ok_iff hhint).mpr htype,
      (renderOptional_eq_ok_iff hdefault).mpr hvalue, rfl⟩
  · rintro ⟨htype, hvalue, rfl⟩
    exact .mk hwritten ((renderOptional_eq_ok_iff hhint).mp htype)
      ((renderOptional_eq_ok_iff hdefault).mp hvalue)

/-- Parameters with their own defaults are shown one by one, wherever in the list they start. -/
theorem renderParams_eq_ok_iff {header : FunctionHeader} {nodes : List Node}
    {own : List (Param × Option Expr)} (hown : List.Forall₂ Owns nodes own) {index : Nat}
    (hdefaults : ∀ place, header.default? (index + place) = own[place]?.bind Prod.snd)
    {shown : List SignatureParam} :
    header.renderParams target around index (own.map Prod.fst) = .ok shown ↔
      List.Forall₂ (ParamShown target around) nodes shown := by
  induction hown generalizing index shown with
  | nil =>
      rw [List.forall₂_nil_left_iff, List.map_nil, FunctionHeader.renderParams, Except.ok.injEq]
      exact eq_comm
  | @cons node first nodes rest hfirst hrest ih =>
      have hvalue : header.default? index = first.2 := hdefaults 0
      have hlater : ∀ place, header.default? (index + 1 + place) = rest[place]?.bind Prod.snd := by
        intro place
        rw [Nat.add_assoc, Nat.add_comm 1 place]
        exact hdefaults (place + 1)
      rw [List.map_cons, FunctionHeader.renderParams, hvalue]
      constructor
      · intro h
        obtain ⟨typeText, htypeText, h⟩ := exists_of_bind_eq_ok h
        obtain ⟨valueText, hvalueText, h⟩ := exists_of_bind_eq_ok h
        obtain ⟨others, hothers, h⟩ := exists_of_bind_eq_ok h
        obtain rfl := Except.ok.inj h
        have hshown : ParamShown target around node ⟨first.1.name, typeText, valueText⟩ :=
          (paramShown_iff hfirst).mpr ⟨htypeText, hvalueText, rfl⟩
        exact .cons hshown ((ih hlater).mp hothers)
      · intro h
        obtain ⟨⟨name, hint, default⟩, others, hshown, hothers, rfl⟩ :=
          List.forall₂_cons_left_iff.mp h
        obtain ⟨htypeText, hvalueText, rfl⟩ := (paramShown_iff hfirst).mp hshown
        rw [htypeText, hvalueText, (ih hlater).mpr hothers]
        rfl

end Signatures

/-- Whether the first written parameter of a function is the receiver of a method. -/
def Source.Node.hasReceiver (node : Node) : Bool :=
  match node.parameters with
  | first :: _ => first.parameterName? == some "self" || first.parameterName? == some "cls"
  | [] => false

/-- The written parameters that stay in a signature, which leaves the receiver of a method out. -/
def Source.Node.keptParameters (node : Node) (isMethod : Bool) : List Node :=
  node.parameters.drop (if isMethod && node.hasReceiver then 1 else 0)

theorem hasReceiver_of_owns {node : Node} {header : FunctionHeader}
    {own : List (Param × Option Expr)} (hown : List.Forall₂ Owns node.parameters own)
    (hparams : header.params = own.map Prod.fst) : node.hasReceiver = header.hasReceiver := by
  rw [Node.hasReceiver, FunctionHeader.hasReceiver, hparams]
  generalize node.parameters = nodes at hown
  cases hown with
  | nil => rfl
  | cons hfirst _ =>
      obtain ⟨hwritten, -, -⟩ := hfirst
      simp only [hwritten.parameterName?, List.map_cons]
      rfl

theorem exists_owns_of_readHeader {node : Node} {decorators : List Expr} {header : FunctionHeader}
    (h : node.readHeader decorators = .ok header) :
    ∃ own, List.Forall₂ Owns node.parameters own ∧ header.params = own.map Prod.fst ∧
      header.defaults = own.filterMap Prod.snd := by
  obtain ⟨name, -, h⟩ := exists_of_bind_eq_ok h
  obtain ⟨⟨params, defaults⟩, hparams, h⟩ := exists_of_bind_eq_ok h
  obtain ⟨returns, -, h⟩ := exists_of_bind_eq_ok h
  obtain rfl := Except.ok.inj h
  exact Node.exists_owns_of_readParameters hparams

/-- A signature comes out exactly where all its parameters can be shown, and then it has them. -/
theorem renderSignature_eq_ok_iff {target : Target} {around : Surroundings}
    {header : FunctionHeader} {isMethod : Bool} {returns : Option String} {signature : Signature} :
    (header.renderSignature target isMethod returns around).result = .ok signature ↔
      header.renderParams target around (if isMethod && header.hasReceiver then 1 else 0)
          (header.params.drop (if isMethod && header.hasReceiver then 1 else 0)) =
        .ok signature.params ∧
      signature = ⟨header.name, signature.params, returns, header.isAsync, isMethod,
        isMethod && header.hasDecorator "property"⟩ := by
  rw [FunctionHeader.renderSignature, bind_apply]
  generalize (if isMethod && header.hasReceiver then 1 else 0) = skipped
  simp only [Script.text]
  cases hparams : header.renderParams target around skipped (header.params.drop skipped) with
  | error rejection => simp
  | ok params =>
      constructor
      · intro h
        obtain rfl := Except.ok.inj h
        exact ⟨rfl, rfl⟩
      · rintro ⟨hsame, hsignature⟩
        obtain rfl := Except.ok.inj hsame
        exact congrArg Except.ok hsignature.symm

/-- **Every default goes to its own parameter.** Where the parameters with defaults come last, each
parameter that stays in the signature of a function or a method has a default exactly when it was
written with one, and then the text of that expression. The place of a default is an exact
difference of the counts, and there is one for a parameter exactly when the parameters from it on
are no more than the defaults. -/
theorem signature_shows_own_defaults {node : Node} {decorators : List Expr}
    {header : FunctionHeader} (hread : node.readHeader decorators = .ok header)
    (hlast : DefaultsLast node.parameters) :
    (∀ (target : Target) (around : Surroundings) (isMethod : Bool) (returns : Option String)
      (signature : Signature),
      (header.renderSignature target isMethod returns around).result = .ok signature ↔
        List.Forall₂ (ParamShown target around) (node.keptParameters isMethod) signature.params ∧
        signature = ⟨header.name, signature.params, returns, header.isAsync, isMethod,
          isMethod && header.hasDecorator "property"⟩) ∧
    ∀ params defaults index : Nat,
      (∀ place, defaultIndex params defaults index = some place →
        (place : Int) = (defaults : Int) - ((params : Int) - (index : Int))) ∧
      (index < params → ∀ place, defaultIndex params defaults index = some place ↔
        params - index ≤ defaults ∧ place = defaults - (params - index)) := by
  obtain ⟨own, hown, hparams, hdefaults⟩ := exists_owns_of_readHeader hread
  refine ⟨fun target around isMethod returns signature => ?_, fun params defaults index => ?_⟩
  · rw [renderSignature_eq_ok_iff, Node.keptParameters, hasReceiver_of_owns hown hparams]
    generalize (if isMethod && header.hasReceiver then 1 else 0) = skipped
    have hplace : ∀ place, header.default? (skipped + place) =
        (own.drop skipped)[place]?.bind Prod.snd := by
      intro place
      rw [FunctionHeader.default?, hparams, hdefaults, List.length_map,
        getElem?_filterMap_defaultIndex (hlast.owned hown), List.getElem?_drop]
    have hshown : header.renderParams target around skipped ((own.drop skipped).map Prod.fst) =
          .ok signature.params ↔
        List.Forall₂ (ParamShown target around) (node.parameters.drop skipped) signature.params :=
      renderParams_eq_ok_iff (List.forall₂_drop skipped hown) hplace
    rw [hparams, ← List.map_drop, hshown]
  · constructor
    · intro place hplace
      obtain ⟨hindex, hfew, rfl⟩ := defaultIndex_eq_some_iff.mp hplace
      omega
    · intro hindex place
      rw [defaultIndex_eq_some_iff]
      exact and_iff_right (Nat.le_of_lt hindex)

/-- The node of a method with a receiver and one parameter of each of the four forms. -/
def methodNode : Node :=
  let name := fun text => Node.construct "identifier" 0 text []
  let type := fun text => (Node.construct "type" 0 text [name text]).filling "type"
  .construct "function_definition" 0
    "def fit(self, width, height: float, depth=width, size: int = depth): pass"
    [(name "fit").filling "name",
      (Node.construct "parameters" 0
        "(self, width, height: float, depth=width, size: int = depth)"
        [name "self", name "width",
          .construct "typed_parameter" 0 "height: float" [name "height", type "float"],
          .construct "default_parameter" 0 "depth=width"
            [(name "depth").filling "name", (name "width").filling "value"],
          .construct "typed_default_parameter" 0 "size: int = depth"
            [(name "size").filling "name", type "int",
              (name "depth").filling "value"]]).filling "parameters",
      (Node.construct "block" 0 "pass" [.construct "pass_statement" 0 "pass" []]).filling "body"]

theorem signature_shows_own_defaults_method :
    let header : FunctionHeader := ⟨"fit",
      [⟨"self", none⟩, ⟨"width", none⟩, ⟨"height", some (.name "float")⟩, ⟨"depth", none⟩,
        ⟨"size", some (.name "int")⟩],
      [.name "width", .name "depth"], none, [], false⟩
    let shown : List SignatureParam :=
      [⟨"width", none, none⟩, ⟨"height", some "float", none⟩, ⟨"depth", none, some "width"⟩,
        ⟨"size", some "int", some "depth"⟩]
    methodNode.readHeader [] = .ok header ∧ DefaultsLast methodNode.parameters ∧
      List.Forall₂ (ParamShown .cpp (Surroundings.outermost.enter (some "Box")))
        (methodNode.keptParameters true) shown := by
  intro header shown
  have hread : methodNode.readHeader [] = .ok header := by cbv
  have hlast : DefaultsLast methodNode.parameters := by
    rw [DefaultsLast]
    decide
  refine ⟨hread, hlast, ?_⟩
  exact (((signature_shows_own_defaults hread hlast).1 .cpp _ true none
    ⟨"fit", shown, none, false, true, false⟩).mp rfl).1

end Snippet
