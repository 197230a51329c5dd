import ApiClient.Proofs.Except
import ApiClient.Service.CallPlan
import Mathlib.Data.List.Forall2

/-!
From the texts of a call plan to the call that its statement returns. The name is checked before the
types, and arguments are not checked at all: of these the names that are no identifiers are left out
of the call, and all else is in it as it was given.
-/

namespace ApiClient.Service

open Code

/-! ### Arguments -/

/-- The expressions that arguments come to, in their order. -/
inductive ArgsGive : List Arg → List Expr → Prop
  | nil : ArgsGive [] []
  | expression {args : List Arg} {es : List Expr} (e : Expr) (h : ArgsGive args es) :
      ArgsGive (.expression e :: args) (e :: es)
  | identifier {args : List Arg} {es : List Expr} {name : String} (hname : isIdent name = true)
      (h : ArgsGive args es) : ArgsGive (.identifier name :: args) (.path (.ofName name) :: es)
  | leftOut {args : List Arg} {es : List Expr} {name : String} (hname : isIdent name = false)
      (h : ArgsGive args es) : ArgsGive (.identifier name :: args) es

theorem toExpr?_identifier (name : String) :
    Arg.toExpr? (.identifier name) =
      if isIdent name then some (.path (.ofName name)) else none := by
  rw [Arg.toExpr?, Ident.parse?]
  split <;> rfl

theorem argExprs_expression (e : Expr) (args : List Arg) :
    argExprs (.expression e :: args) = e :: argExprs args :=
  rfl

theorem argExprs_identifier {name : String} (h : isIdent name = true) (args : List Arg) :
    argExprs (.identifier name :: args) = .path (.ofName name) :: argExprs args :=
  List.filterMap_cons_some ((toExpr?_identifier name).trans (if_pos h))

theorem argExprs_leftOut {name : String} (h : isIdent name = false) (args : List Arg) :
    argExprs (.identifier name :: args) = argExprs args :=
  List.filterMap_cons_none ((toExpr?_identifier name).trans (if_neg (by simp [h])))

theorem argsGive_argExprs (args : List Arg) : ArgsGive args (argExprs args) := by
  induction args with
  | nil => exact .nil
  | cons arg args ih =>
      cases arg with
      | expression e => exact .expression e ih
      | identifier name =>
          cases hname : isIdent name with
          | true =>
              rw [argExprs_identifier hname]
              exact .identifier hname ih
          | false =>
              rw [argExprs_leftOut hname]
              exact .leftOut hname ih

/-- Arguments come to the expressions that a call is built with, and to no others. -/
theorem argsGive_iff {args : List Arg} {es : List Expr} :
    ArgsGive args es ↔ argExprs args = es := by
  constructor
  · intro h
    induction h with
    | nil => rfl
    | expression e h ih => rw [argExprs_expression, ih]
    | identifier hname h ih => rw [argExprs_identifier hname, ih]
    | leftOut hname h ih => rw [argExprs_leftOut hname, ih]
  · rintro rfl
    exact argsGive_argExprs args

/-! ### Texts -/

/-- What is wrong with the texts of a plan: the name, or the first type that is none. -/
def planFault? (name : String) (types : List String) : Option PlanError :=
  if isIdent name then
    (types.find? fun text => (Ty.parse? text).isNone).map .invalidTypeArgument
  else some (.invalidName name)

theorem fault?_parseTypes (types : List String) :
    fault? (CallPlan.parseTypes types) =
      (types.find? fun text => (Ty.parse? text).isNone).map .invalidTypeArgument := by
  induction types with
  | nil => rfl
  | cons text types ih =>
      rw [CallPlan.parseTypes, List.find?_cons]
      cases Ty.parse? text with
      | none => rfl
      | some t => exact (fault?_map _ _).trans ih

theorem fault?_parse (name : String) (args : List Arg) (types : List String) :
    fault? (CallPlan.parse name args types) = planFault? name types := by
  rw [CallPlan.parse, planFault?]
  cases hname : isIdent name with
  | true =>
      rw [Ident.parse?, dif_pos hname]
      exact (fault?_map _ _).trans (fault?_parseTypes types)
  | false =>
      rw [Ident.parse?, dif_neg (by simp [hname])]
      rfl

theorem planFault?_eq_none_iff {name : String} {types : List String} :
    planFault? name types = none ↔
      isIdent name = true ∧ ∀ text ∈ types, (Ty.parse? text).isSome = true := by
  rw [planFault?]
  split
  case isTrue hname => simp [hname, Option.isSome_iff_ne_none]
  case isFalse hname => simp [hname]

theorem forall₂_of_parseTypes_eq_ok {texts : List String} {types : List Ty}
    (h : CallPlan.parseTypes texts = .ok types) :
    List.Forall₂ (fun text t => Ty.parse? text = some t) texts types := by
  induction texts generalizing types with
  | nil =>
      cases h
      exact .nil
  | cons text texts ih =>
      rw [CallPlan.parseTypes] at h
      split at h
      case h_1 => cases h
      case h_2 t ht =>
        obtain ⟨rest, hrest, rfl⟩ := map_eq_ok_iff.mp h
        exact .cons ht (ih hrest)

/-- A plan is made of what its texts spell and of the arguments as they were given. -/
theorem parts_of_parse_eq_ok {name : String} {args : List Arg} {texts : List String}
    {plan : CallPlan} (h : CallPlan.parse name args texts = .ok plan) :
    plan.name.name = name ∧ plan.args = args ∧
      List.Forall₂ (fun text t => Ty.parse? text = some t) texts plan.types := by
  rw [CallPlan.parse] at h
  split at h
  case h_1 => cases h
  case h_2 ident hident =>
    obtain ⟨types, htypes, rfl⟩ := map_eq_ok_iff.mp h
    exact ⟨Ident.name_of_parse? hident, rfl, forall₂_of_parseTypes_eq_ok htypes⟩

end ApiClient.Service

namespace ApiClient.Code

/-! ### Calls -/

theorem Call.typesOf_map_type (types : List Ty) : Call.typesOf (types.map .type) = types := by
  rw [Call.typesOf, List.filterMap_map]
  exact List.filterMap_some

/-- The type arguments of a call are all the types that it was built with. -/
theorem Call.typeArguments_build (name : Ident) (args : List Expr) (types : List Ty) :
    (Call.build name args types).typeArguments = types := by
  cases types with
  | nil => rfl
  | cons t types => exact Call.typesOf_map_type (t :: types)

/-- The call that a statement of a call returns is that call. -/
theorem Return.call?_ofCall (name : Ident) (args : List Expr) (types : List Ty) :
    (Return.ofCall name args types).call? = some (Call.build name args types) :=
  rfl

end ApiClient.Code

namespace ApiClient.Service

open Code

/-- The texts of a plan are refused for the name or for the first type that is none, and for nothing
else. Otherwise the plan's statement returns a call of that name: its type arguments are the types
in order, without a generic list where there are none, and its arguments are the expressions that
those of the plan come to. It is the statement that returns the call built of these parts. -/
theorem parse_refuses_or_returns_call (name : String) (args : List Arg) (texts : List String) :
    (∀ e, CallPlan.parse name args texts = .error e ↔ planFault? name texts = some e) ∧
    ((∃ plan, CallPlan.parse name args texts = .ok plan) ↔
      isIdent name = true ∧ ∀ text ∈ texts, (Ty.parse? text).isSome = true) ∧
    ∀ plan, CallPlan.parse name args texts = .ok plan → ∃ call,
      plan.toReturn.call? = some call ∧
      call.callee = .path (.plain false [.mk name
        (if texts = [] then .none else .angle true (plan.types.map .type) false)]) ∧
      List.Forall₂ (fun text t => Ty.parse? text = some t) texts call.typeArguments ∧
      call.typeArguments = plan.types ∧
      (∀ es, ArgsGive args es ↔ call.args = es) ∧
      plan.toReturn = .ofCall plan.name call.args plan.types ∧
      call = .build plan.name call.args plan.types := by
  refine ⟨fun e => ?_, ?_, fun plan hplan => ?_⟩
  · rw [← fault?_eq_some_iff, fault?_parse]
  · rw [← fault?_eq_none_iff, fault?_parse, planFault?_eq_none_iff]
  · obtain ⟨hname, hargs, htypes⟩ := parts_of_parse_eq_ok hplan
    refine ⟨.build plan.name (argExprs args) plan.types, ?_, ?_, ?_, ?_, fun es => ?_, ?_, rfl⟩
    · rw [CallPlan.toReturn, hargs, Return.call?_ofCall]
    · have hempty : plan.types.isEmpty = true ↔ texts = [] := by
        rw [List.isEmpty_iff, ← List.length_eq_zero_iff, ← htypes.length_eq,
          List.length_eq_zero_iff]
      simp only [Call.build, hname, hempty]
    · rwa [Call.typeArguments_build]
    · exact Call.typeArguments_build _ _ _
    · exact argsGive_iff
    · rw [CallPlan.toReturn, hargs]
      rfl

/-- A call with a name and a literal for arguments. The text between them is no identifier and is
left out. -/
theorem parse_refuses_or_returns_call_fetchUser :
    (∃ plan call, CallPlan.parse "fetchUser"
        [.identifier "id", .identifier "a b", .expression (.bool true)] ["User", "Vec<u8>"] =
          .ok plan ∧
      plan.toReturn.call? = some call ∧
      call.args = [.path (.ofName "id"), .bool true] ∧
      List.Forall₂ (fun text t => Ty.parse? text = some t) ["User", "Vec<u8>"]
        call.typeArguments) ∧
    CallPlan.parse "fetchUser" [] ["User", "Vec<", "("] = .error (.invalidTypeArgument "Vec<") := by
  constructor
  · obtain ⟨-, hok, hcall⟩ := parse_refuses_or_returns_call "fetchUser"
      [.identifier "id", .identifier "a b", .expression (.bool true)] ["User", "Vec<u8>"]
    obtain ⟨plan, hplan⟩ := hok.mpr (by decide +kernel)
    obtain ⟨call, hreturn, -, htypes, -, hargs, -⟩ := hcall plan hplan
    refine ⟨plan, call, hplan, hreturn, (hargs _).mp ?_, htypes⟩
    exact .identifier (by decide) (.leftOut (by decide) (.expression _ .nil))
  · exact ((parse_refuses_or_returns_call _ _ _).1 _).mpr (by decide +kernel)

end ApiClient.Service
