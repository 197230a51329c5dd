import ApiClient.Proofs.Code.PathReading

/-!
Paths of words, such as those that names are imported from and those of constants, as expressions.
-/

namespace ApiClient.Code

open ApiClient.Code.Parser Grammar

/-! ### Words -/

/-- A path of words alone, and `Self` is none of them. -/
def Path.isWords : Path → Bool
  | .plain _ segments => !segments.isEmpty && segments.all fun
    | .mk name .none => !reservedWords.contains name || ["super", "self", "crate"].contains name
    | _ => false
  | .qualified .. => false

def Path.ofNames (rooted : Bool) (names : List String) : Path :=
  .plain rooted (names.map fun name => .mk name .none)

theorem Path.eq_ofNames_of_isWords {p : Path} (h : p.isWords = true) :
    ∃ rooted names, p = .ofNames rooted names ∧ names ≠ [] ∧ ∀ name ∈ names, IsPathWord name := by
  cases p with
  | qualified => cases h
  | plain rooted segments =>
      rw [isWords, Bool.and_eq_true, List.all_eq_true] at h
      obtain ⟨hne, hall⟩ := h
      have hbare : ∀ s ∈ segments, s = .mk s.name .none ∧ IsPathWord s.name := by
        intro s hs
        match s, hall s hs with
        | .mk name .none, hname => exact ⟨rfl, isPathWord_iff.mpr hname⟩
      refine ⟨rooted, segments.map Segment.name, ?_, by simpa using hne, ?_⟩
      · have hsegments : segments = segments.map fun s => .mk s.name .none :=
          (List.map_id' segments).symm.trans (List.map_congr_left fun s hs => (hbare s hs).1)
        rw [ofNames, List.map_map]
        exact congrArg (Path.plain rooted) hsegments
      · intro name hname
        obtain ⟨s, hs, rfl⟩ := List.mem_map.mp hname
        exact (hbare s hs).2

/-! ### Expressions -/

section

variable {g : Grammar} {rooted : Bool} {names : List String} {ts : List Token}

theorem toPlain?_ofNames (rooted : Bool) (names : List String) :
    (Path.ofNames rooted names).toPlain? = some ⟨rooted, names⟩ := by
  have hnames : (names.map fun name => Segment.mk name .none).mapM Segment.bareName? = some names := by
    induction names with
    | nil => rfl
    | cons name names ih => simp [Segment.bareName?, ih]
  rw [Path.ofNames, Path.toPlain?, hnames]
  rfl

theorem tokens_ofNames (rooted : Bool) (name : String) (names : List String) (ts : List Token) :
    (Path.ofNames rooted (name :: names)).tokens ++ ts =
      (if rooted then sym "::" else []) ++
        (word name ++ ((names.map fun name => sym "::" ++ word name).flatten ++ ts)) := by
  have hword (name : String) : (Segment.mk name .none).tokens = word name := by
    rw [Segment.tokens, SegmentArgs.tokens, List.append_nil]
  rw [Path.ofNames, List.map_cons, Path.tokens, List.append_assoc, separated_segments, hword,
    List.map_map]
  simp only [Function.comp_def, hword]

theorem segment_word {name : String} (h : IsPathWord name)
    (hts : (isOp "::" ts && isOp "<" (ts.drop 2)) = false) :
    segment g true (word name ++ ts) = some (.mk name .none, ts) := by
  refine bind_step rfl ?_
  rcases h with hname | hscope
  · refine else_step (isOneOf_eq_false (not_mem_of_not_reserved hname (by decide)) _) ?_
    refine bind_step (identOr_word hname _ _) (bind_step rfl (else_step ?_ rfl))
    rw [hts]
    rfl
  · have hword : isOneOf ["super", "self", "crate", "try"] (word name ++ ts) = true :=
      isOneOf_word (List.mem_append_left ["try"] hscope) ts
    exact then_step hword (bind_step rfl rfl)

theorem path_ofNames (hne : names ≠ []) (h : ∀ name ∈ names, IsPathWord name)
    (hts : isOp "::" ts = false) :
    path g true ((Path.ofNames rooted names).tokens ++ ts) = some (.ofNames rooted names, ts) := by
  let follows (ts : List Token) : Prop := (isOp "::" ts && isOp "<" (ts.drop 2)) = false
  have hfollows : follows ts := by
    change (isOp "::" ts && isOp "<" (ts.drop 2)) = false
    rw [hts, Bool.false_and]
  have hpart {name : String} (hname : IsPathWord name) :
      ReadsWhile pathGoesOn (do op "::"; segment g true) follows (sym "::" ++ word name)
        (.mk name .none) :=
    ⟨fun {ts} _ => rfl, fun {ts} _ => rfl, fun {ts} hts => by
      rw [List.append_assoc]
      exact bind_step rfl (segment_word hname hts)⟩
  cases names with
  | nil => exact absurd rfl hne
  | cons name names =>
      obtain ⟨hname, hnames⟩ := List.forall_mem_cons.mp h
      have hmore : moreSegments g true pathGoesOn
          ((names.map fun name => sym "::" ++ word name).flatten ++ ts) =
            some (names.map fun name => .mk name .none, ts) := by
        refine manyWhile_flatten follows (by rw [pathGoesOn, hts, Bool.false_and]) hfollows ?_
        rw [List.forall₂_map_left_iff, List.forall₂_map_right_iff, List.forall₂_same]
        exact fun name hname => hpart (hnames name hname)
      have hfirst : follows ((names.map fun name => sym "::" ++ word name).flatten ++ ts) := by
        cases names with
        | nil => exact hfollows
        | cons => rfl
      have hread := segment_word (g := g) hname hfirst
      rw [tokens_ofNames]
      cases rooted with
      | true => exact bind_step rfl (bind_step rfl (bind_step hread (bind_step hmore rfl)))
      | false => exact bind_step rfl (bind_step rfl (bind_step hread (bind_step hmore rfl)))

/-- A word of a path begins nothing but a path. -/
theorem atom_word {name : String} (h : IsPathWord name) (hts : isOp "#" ts = false) :
    atom g true (word name ++ ts) = pathExpr g true (word name ++ ts) := by
  have hnot : name ∉ ["true", "false", "async", "try", "move", "static", "for", "const"] :=
    h.not_mem (by decide) (by decide)
  simp only [List.mem_cons, List.not_mem_nil, or_false, not_or] at hnot
  obtain ⟨htrue, hfalse, hasync, htry, hmove, hstatic, hfor, hconst⟩ := hnot
  have hword {w : String} (hw : name ≠ w) : isWordToken w (word name ++ ts) = false := by
    rwa [isWordToken_word, beq_eq_false_iff_ne]
  have hliteral : isLiteralToken (word name ++ ts) = false := by
    change (name == "true" || name == "false") = false
    simp [htrue, hfalse]
  have hclosure : startsClosure (word name ++ ts) = false := by
    simp only [startsClosure, isOneOf, List.any_cons, List.any_nil, hword hmove, hword hstatic,
      hword hfor, hword hconst, hword hasync, Bool.false_and, Bool.or_false]
    rfl
  have hhash : isOp "#" (skip (word name ++ ts)) = false := hts
  refine bind_step rfl (else_step hliteral (else_step ?_ (else_step ?_ (else_step hclosure
    (else_step ?_ (then_step ?_ rfl))))))
  · rw [hword hasync, Bool.false_and]
  · rw [hword htry, Bool.false_and]
  · rw [hhash, Bool.and_false]
  · rw [startsPlainPath_of_isPathWord h, Bool.true_or, Bool.true_or]

theorem atom_ofNames (hne : names ≠ []) (h : ∀ name ∈ names, IsPathWord name)
    (hts : ts = [] ∨ ∃ rest, ts = comma ++ rest) :
    atom g true ((Path.ofNames rooted names).tokens ++ ts) = some (.path (.ofNames rooted names), ts)
    := by
  have hpath : pathExpr g true ((Path.ofNames rooted names).tokens ++ ts) =
      some (.path (.ofNames rooted names), ts) := by
    have hcolons : isOp "::" ts = false := by
      rcases hts with rfl | ⟨rest, rfl⟩ <;> rfl
    refine bind_step (path_ofNames hne h hcolons) (bind_step rfl ?_)
    rw [toPlain?_ofNames]
    rcases hts with rfl | ⟨rest, rfl⟩ <;> rfl
  cases names with
  | nil => exact absurd rfl hne
  | cons name names =>
      have hhash : isOp "#" ((names.map fun name => sym "::" ++ word name).flatten ++ ts) =
          false := by
        cases names with
        | nil => rcases hts with rfl | ⟨rest, rfl⟩ <;> rfl
        | cons => rfl
      rw [tokens_ofNames] at hpath ⊢
      cases rooted with
      | true => exact bind_step rfl hpath
      | false => exact (atom_word (h name List.mem_cons_self) hhash).trans hpath

/-- Names are read as an expression in front of a comma or of nothing. -/
theorem expr_ofNames {n : Nat} (hne : names ≠ []) (h : ∀ name ∈ names, IsPathWord name)
    (hts : ts = [] ∨ ∃ rest, ts = comma ++ rest) :
    (ofFuel (n + 1)).expr true ((Path.ofNames rooted names).tokens ++ ts) =
      some (.path (.ofNames rooted names), ts) := by
  let e : Expr := .path (.ofNames rooted names)
  have hatom : atom (.ofFuel n) true ((Path.ofNames rooted names).tokens ++ ts) = some (e, ts) :=
    atom_ofNames hne h hts
  have htrailers : trailers (.ofFuel n) e ts = some (e, ts) := by
    rcases hts with rfl | ⟨rest, rfl⟩ <;> rfl
  have hoperand : operandRule (.ofFuel n) true ((Path.ofNames rooted names).tokens ++ ts) =
      some (e, ts) := by
    cases names with
    | nil => exact absurd rfl hne
    | cons name names =>
        rw [tokens_ofNames] at hatom ⊢
        cases rooted with
        | true => exact bind_step rfl (bind_step rfl (bind_step rfl (bind_step rfl
            (bind_step hatom (bind_step htrailers rfl)))))
        | false => exact bind_step rfl (bind_step rfl (bind_step rfl (bind_step rfl
            (bind_step hatom (bind_step htrailers rfl)))))
  refine bind_step hoperand ?_
  rcases hts with rfl | ⟨rest, rfl⟩ <;> rfl

end

end ApiClient.Code
