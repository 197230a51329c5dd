import ApiClient.Code.Call

/-!
The tokens of calls and of types with type arguments. Arguments that are all types keep their order,
with one comma between neighbours.
-/

namespace ApiClient.Code

theorem genericArgs_eq_map (args : List GenericArg) :
    genericArgs args = args.map GenericArg.tokens := by
  induction args with
  | nil => rw [List.map_nil, genericArgs]
  | cons a args ih => rw [List.map_cons, genericArgs, ih]

theorem exprList_eq_map (es : List Expr) : exprList es = es.map Expr.tokens := by
  induction es with
  | nil => rw [List.map_nil, exprList]
  | cons e es ih => rw [List.map_cons, exprList, ih]

theorem joinWithCommas_withCommas (trailing : Bool) (parts : List (List Token)) :
    joinWithCommas true (withCommas trailing parts) = separated comma trailing parts := by
  fun_induction separated comma trailing parts with
  | case1 => rfl
  | case2 last | case3 last => simp_all [withCommas, joinWithCommas]
  | case4 part rest hrest ih =>
      rw [withCommas, joinWithCommas, ih]
      · rfl
      · exact hrest

/-- Nothing is moved where what goes first is in front already. -/
theorem putFirst_eq_self {α : Type} {first : α → Bool} {items : List α}
    (h : items.Pairwise fun x y => first y = true → first x = true) :
    putFirst first items = items := by
  induction h with
  | nil => rfl
  | @cons x items hx hitems ih =>
      rw [putFirst] at ih ⊢
      cases hfirst : first x with
      | true => simp [hfirst, ih]
      | false =>
          have hnone : ∀ y ∈ items, first y = false := fun y hy =>
            eq_false_of_ne_true fun htrue => absurd (hx y hy htrue) (by simp [hfirst])
          have hall : items.filter first = [] := List.filter_eq_nil_iff.mpr (by simpa using hnone)
          have hrest : items.filter (fun x => !first x) = items :=
            List.filter_eq_self.mpr (by simpa using hnone)
          simp [hfirst, hall, hrest]

theorem length_withCommas (trailing : Bool) (parts : List (List Token)) :
    (withCommas trailing parts).length = parts.length := by
  fun_induction withCommas trailing parts with
  | case1 | case2 => rfl
  | case3 part rest hrest ih => rw [List.length_cons, ih, List.length_cons]

/-- Whether lifetimes stand in front of other arguments, as they are written. -/
def lifetimesLead : List GenericArg → Bool
  | [] => true
  | a :: rest => (a.isLifetime || rest.all fun b => !b.isLifetime) && lifetimesLead rest

theorem pairwise_of_lifetimesLead {args : List GenericArg} (h : lifetimesLead args = true) :
    args.Pairwise fun a b => b.isLifetime = true → a.isLifetime = true := by
  induction args with
  | nil => exact .nil
  | cons a args ih =>
      rw [lifetimesLead, Bool.and_eq_true, Bool.or_eq_true, List.all_eq_true] at h
      refine .cons (fun b hb hlifetime => ?_) (ih h.2)
      refine h.1.resolve_right fun hnone => ?_
      simpa [hlifetime] using hnone b hb

theorem lifetimesLead_types (types : List Ty) : lifetimesLead (types.map .type) = true := by
  induction types with
  | nil => rfl
  | cons t types ih => simp [lifetimesLead, ih, GenericArg.isLifetime]

/-- Arguments that keep their order. -/
theorem tokens_angle {args : List GenericArg} (h : lifetimesLead args = true)
    (turbofish trailing : Bool) :
    (SegmentArgs.angle turbofish args trailing).tokens =
      (if turbofish then sym "::" else []) ++ sym "<" ++
        separated comma trailing (args.map GenericArg.tokens) ++ sym ">" := by
  have hleads := pairwise_of_lifetimesLead h
  have hlength : (args.map GenericArg.isLifetime).length =
      (withCommas trailing (args.map GenericArg.tokens)).length := by simp [length_withCommas]
  have hflags := List.map_fst_zip (Nat.le_of_eq hlength)
  have hparts := List.map_snd_zip (Nat.le_of_eq hlength.symm)
  rw [← @List.pairwise_map _ _ GenericArg.isLifetime fun a b => b = true → a = true, ← hflags,
    List.pairwise_map] at hleads
  rw [SegmentArgs.tokens, genericArgs_eq_map, putFirst_eq_self hleads, hparts,
    joinWithCommas_withCommas]

theorem tokens_angle_types (turbofish : Bool) (types : List Ty) :
    (SegmentArgs.angle turbofish (types.map .type) false).tokens =
      (if turbofish then sym "::" else []) ++ sym "<" ++
        separated comma false (types.map Ty.tokens) ++ sym ">" := by
  have hmap : (types.map GenericArg.type).map GenericArg.tokens = types.map Ty.tokens := by
    rw [List.map_map]
    exact List.map_congr_left fun t _ => by rw [Function.comp_apply, GenericArg.tokens]
  rw [tokens_angle (lifetimesLead_types types), hmap]

/-- The tokens of `name<types>`. -/
theorem tokens_path_types (name : String) (turbofish : Bool) (types : List Ty) :
    (Path.plain false [.mk name (.angle turbofish (types.map .type) false)]).tokens =
      word name ++ ((if turbofish then sym "::" else []) ++ sym "<" ++
        separated comma false (types.map Ty.tokens) ++ sym ">") := by
  simp [Path.tokens, segmentList, Segment.tokens, tokens_angle_types, separated]

/-- The tokens of `return name::<types>(args);`. -/
theorem tokens_ofCall (name : Ident) (args : List Expr) {types : List Ty} (h : types ≠ []) :
    (Return.ofCall name args types).tokens =
      word "return" ++ word name.name ++ sym "::" ++ sym "<" ++
        separated comma false (types.map Ty.tokens) ++ sym ">" ++
        inParens (separated comma false (args.map Expr.tokens)) ++ sym ";" := by
  have htypes : types.isEmpty = false := by simpa using h
  simp [Return.ofCall, Return.tokens, Return.stmt, Call.build, Call.toExpr, Stmt.tokens,
    Expr.withAttributes, Expr.tokens, exprOption, htypes, tokens_path_types, exprList_eq_map]

end ApiClient.Code
