import ApiClient.Proofs.Code.PathReading

/-!
Types as generic arguments, where a type reads back when the rules read an argument where it is
written as one, and types that are read as themselves, which read back.
-/

namespace ApiClient.Code

open ApiClient.Code.Parser Grammar

/-! ### Arguments -/

/-- Generic arguments go on or end here. -/
abbrev EndsArgument : List Token → Prop := EndsItem (isOp ">")

/-- The rules to a depth read the type as an argument, whatever arguments follow. -/
def Ty.ReadsAsArg (n : Nat) (t : Ty) (a : GenericArg) : Prop :=
  ∀ ts, EndsArgument ts → genericArg (.ofFuel n) (t.tokens ++ ts) = some (a, ts)

/-- Written as a generic argument the type is read as one, by rules that are deep enough. -/
def Ty.ReadsBack (t : Ty) : Prop :=
  ∃ a, ∀ n, 4 * Token.countAll t.tokens + 16 ≤ n → t.ReadsAsArg n a

theorem eq_of_isOp_angle {ts : List Token} (h : isOp ">" ts = true) :
    ∃ joint rest, ts = .punct '>' joint :: rest := by
  match ts, h with
  | .punct c joint :: rest, h =>
      have hc : '>' = c := by
        change ((if '>' = c then some rest else none : Option (List Token)).isSome) = true at h
        by_contra hne
        rw [if_neg hne] at h
        cases h
      exact ⟨joint, rest, by rw [hc]⟩

/-- No argument begins where the arguments end. -/
theorem Ty.ReadsAsArg.isOp_eq_false {n : Nat} {t : Ty} {a : GenericArg} (h : t.ReadsAsArg n a)
    {ts : List Token} (hts : EndsArgument ts) : isOp ">" (t.tokens ++ ts) = false := by
  by_contra hangle
  obtain ⟨joint, rest, heq⟩ := eq_of_isOp_angle (by simpa using hangle)
  have hnone : genericArg (.ofFuel n) (.punct '>' joint :: rest) = none := by
    cases n <;> cases joint <;> rfl
  have hsome := h ts hts
  rw [heq, hnone] at hsome
  cases hsome

theorem opensArgs_angle {args : List GenericArg} (h : lifetimesLead args = true)
    (turbofish trailing : Bool) (ts : List Token) :
    opensArgs ((SegmentArgs.angle turbofish args trailing).tokens ++ ts) = true := by
  rw [tokens_angle h]
  simp only [List.append_assoc]
  cases turbofish <;> rfl

/-- The rules read the argument as another one, whatever arguments follow. -/
def GenericArg.ReadsAs (g : Grammar) (a a' : GenericArg) : Prop :=
  ∀ ts, EndsArgument ts →
    isOp ">" (a.tokens ++ ts) = false ∧ genericArg g (a.tokens ++ ts) = some (a', ts)

/-- Arguments that are read one by one are read together. -/
theorem angleArgs_of_readsAs {g : Grammar} {args args' : List GenericArg}
    (hlead : lifetimesLead args = true) (h : List.Forall₂ (GenericArg.ReadsAs g) args args')
    (turbofish : Bool) {trailing : Bool} (hempty : args = [] → trailing = false)
    (rest : List Token) :
    angleArgs g ((SegmentArgs.angle turbofish args trailing).tokens ++ rest) =
      some (.angle turbofish args' trailing, rest) := by
  have hlist := separatedUntil_separated trailing (sym ">" ++ rest) (fun ts => rfl) rfl
    (List.forall₂_map_left_iff.mpr h) fun hnil => hempty (List.map_eq_nil_iff.mp hnil)
  rw [tokens_angle hlead]
  simp only [List.append_assoc]
  cases turbofish with
  | false => exact bind_step rfl (bind_step rfl (bind_step hlist rfl))
  | true => exact bind_step rfl (bind_step rfl (bind_step hlist rfl))

/-- Types that are read as arguments one by one are read together. -/
theorem angleArgs_types {n : Nat} {types : List Ty} {args : List GenericArg}
    (h : List.Forall₂ (Ty.ReadsAsArg n) types args) (turbofish : Bool) (rest : List Token) :
    angleArgs (.ofFuel n)
        ((SegmentArgs.angle turbofish (types.map .type) false).tokens ++ rest) =
      some (.angle turbofish args false, rest) := by
  refine angleArgs_of_readsAs (lifetimesLead_types types) (List.forall₂_map_left_iff.mpr ?_)
    turbofish (fun _ => rfl) rest
  refine h.imp fun t a ha ts hts => ?_
  rw [GenericArg.tokens]
  exact ⟨ha.isOp_eq_false hts, ha ts hts⟩

/-! ### Types that are read as themselves -/

/-- What a type begins with is no lifetime, no constant and no mark of its own. -/
structure LeadsType (ts : List Token) : Prop where
  lifetime : isLifetime ts = false
  const : startsConst ts = false
  maybe : isOp "?" ts = false
  mutable : isWordToken "mut" ts = false
  hash : isOp "#" ts = false
  dots : isOp "..." ts = false
  angle : isOp ">" ts = false
  nonempty : ts.isEmpty = false

/-- What begins like no parameter with a name. -/
structure LeadsUnnamed (ts : List Token) : Prop where
  named : startsNamed ["_", "self"] ts = false
  variadic : startsVariadic ts = false

/-- The rules to a depth read the type as itself, in front of whatever belongs to no type. -/
structure Ty.ReadsAt (n : Nat) (allowPlus : Bool) (t : Ty) : Prop where
  leads (ts : List Token) : LeadsType (t.tokens ++ ts)
  unnamed {ts : List Token} : EndsItem List.isEmpty ts → LeadsUnnamed (t.tokens ++ ts)
  reads {ts : List Token} : EndsType allowPlus ts →
    (ofFuel n).ty allowPlus (t.tokens ++ ts) = some (t, ts)

theorem endsType_of_endsArgument {ts : List Token} (h : EndsArgument ts) (allowPlus : Bool) :
    EndsType allowPlus ts := by
  rcases h with hangle | ⟨rest, rfl⟩
  · obtain ⟨joint, rest, rfl⟩ := eq_of_isOp_angle hangle
    cases joint <;> exact ⟨⟨rfl, rfl⟩, rfl, rfl, rfl, rfl⟩
  · exact ⟨⟨rfl, rfl⟩, rfl, rfl, rfl, rfl⟩

theorem endsType_of_endsItem {ts : List Token} (h : EndsItem List.isEmpty ts) (allowPlus : Bool) :
    EndsType allowPlus ts := by
  rcases h with hnil | ⟨rest, rfl⟩
  · rw [List.isEmpty_iff.mp hnil]
    exact ⟨⟨rfl, rfl⟩, rfl, rfl, rfl, rfl⟩
  · exact ⟨⟨rfl, rfl⟩, rfl, rfl, rfl, rfl⟩

theorem endsType_nil (allowPlus : Bool) : EndsType allowPlus [] :=
  ⟨⟨rfl, rfl⟩, rfl, rfl, rfl, rfl⟩

theorem endsArgument_ne {ts : List Token} (h : EndsArgument ts) :
    isOp "=" ts = false ∧ isOp ":" ts = false := by
  rcases h with hangle | ⟨rest, rfl⟩
  · obtain ⟨joint, rest, rfl⟩ := eq_of_isOp_angle hangle
    cases joint <;> exact ⟨rfl, rfl⟩
  · exact ⟨rfl, rfl⟩

/-- A type that is read as itself is an argument, since neither lifetimes nor constants begin like
one. -/
theorem Ty.ReadsAt.readsAs {n : Nat} {t : Ty} (h : t.ReadsAt n true) :
    (GenericArg.type t).ReadsAs (.ofFuel n) (.type t) := by
  intro ts hts
  rw [GenericArg.tokens]
  have hleads := h.leads ts
  obtain ⟨heq, hcolon⟩ := endsArgument_ne hts
  refine ⟨hleads.angle, bind_step rfl (else_step (by rw [hleads.lifetime]; rfl)
    (else_step hleads.const (bind_step (h.reads (endsType_of_endsArgument hts true)) ?_)))⟩
  cases assocName? t with
  | none => rfl
  | some named =>
      obtain ⟨name, args⟩ := named
      exact bind_step (opIf_eq_false heq) (bind_step (opIf_eq_false hcolon) rfl)

theorem tyList_eq_map (types : List Ty) : tyList types = types.map Ty.tokens := by
  induction types with
  | nil => rw [tyList, List.map_nil]
  | cons t types ih => rw [tyList, ih, List.map_cons]

/-! ### Types around types -/

section

variable {n : Nat} {t : Ty} (allowPlus : Bool)

theorem readsAt_infer (n : Nat) : Ty.infer.ReadsAt (n + 1) allowPlus := by
  refine ⟨fun _ => ⟨rfl, rfl, rfl, rfl, rfl, rfl, rfl, rfl⟩, fun {ts} hts => ?_, fun {_} _ => rfl⟩
  rcases hts with hnil | ⟨rest, rfl⟩
  · rw [List.isEmpty_iff.mp hnil]
    exact ⟨rfl, rfl⟩
  · exact ⟨rfl, rfl⟩

theorem readsAt_never (n : Nat) : Ty.never.ReadsAt (n + 1) allowPlus :=
  ⟨fun _ => ⟨rfl, rfl, rfl, rfl, rfl, rfl, rfl, rfl⟩, fun {_} _ => ⟨rfl, rfl⟩, fun {_} _ => rfl⟩

/-! Each kind of type is known by its first token, so the steps in front of the parts are computed;
the parts are read one level deeper. -/

/-- A type in front of nothing. -/
theorem Ty.ReadsAt.reads_all {allowPlus : Bool} (h : t.ReadsAt n allowPlus) :
    (ofFuel n).ty allowPlus t.tokens = some (t, []) := by
  simpa using h.reads (endsType_nil allowPlus)

theorem Ty.ReadsAt.slice (h : t.ReadsAt n true) : (Ty.slice t).ReadsAt (n + 1) allowPlus := by
  refine ⟨fun _ => ⟨rfl, rfl, rfl, rfl, rfl, rfl, rfl, rfl⟩, fun {_} _ => ⟨rfl, rfl⟩,
    fun {ts} _ => ?_⟩
  exact bind_step rfl (bind_step rfl
    (inside_group (bind_step h.reads_all (bind_step (opIf_eq_false rfl) rfl)) ts))

theorem Ty.ReadsAt.array (h : t.ReadsAt n true) {size : Expr}
    (hsize : (ofFuel n).expr true size.tokens = some (size, [])) :
    (Ty.array t size).ReadsAt (n + 1) allowPlus := by
  refine ⟨fun _ => ⟨rfl, rfl, rfl, rfl, rfl, rfl, rfl, rfl⟩, fun {_} _ => ⟨rfl, rfl⟩,
    fun {ts} _ => ?_⟩
  have hends : EndsType true (sym ";" ++ size.tokens) := ⟨⟨rfl, rfl⟩, rfl, rfl, rfl, rfl⟩
  have helem := h.reads hends
  rw [← List.append_assoc] at helem
  have hmore : opIf ";" (sym ";" ++ size.tokens) = some (true, size.tokens) := rfl
  exact bind_step rfl (bind_step rfl
    (inside_group (bind_step helem (bind_step hmore (bind_step hsize rfl))) ts))

theorem Ty.ReadsAt.paren (h : t.ReadsAt n true) : (Ty.paren t).ReadsAt (n + 1) allowPlus := by
  refine ⟨fun _ => ⟨rfl, rfl, rfl, rfl, rfl, rfl, rfl, rfl⟩, fun {_} _ => ⟨rfl, rfl⟩,
    fun {ts} hts => ?_⟩
  have hleads := h.leads []
  rw [List.append_nil] at hleads
  have hcontent : parenContent (.ofFuel n) t.tokens = some (.single t, []) :=
    bind_step rfl (else_step hleads.nonempty (else_step hleads.lifetime (else_step hleads.maybe
      (bind_step h.reads_all (bind_step rfl rfl)))))
  have hplus : (allowPlus && isOp "+" ts) = false := by rw [Bool.and_comm, hts.plus]
  exact bind_step rfl (bind_step rfl
    (bind_step (inside_group hcontent ts) (bind_step rfl (else_step hplus rfl))))

theorem Ty.ReadsAt.pointer (h : t.ReadsAt n false) (isMut : Bool) :
    (Ty.pointer isMut t).ReadsAt (n + 1) allowPlus := by
  refine ⟨fun _ => ⟨rfl, rfl, rfl, rfl, rfl, rfl, rfl, rfl⟩, fun {_} _ => ⟨rfl, rfl⟩,
    fun {ts} hts => ?_⟩
  have htype := h.reads hts.noPlus
  cases isMut with
  | true => exact bind_step rfl (bind_step rfl (bind_step rfl (bind_step rfl
      (bind_step rfl (bind_step htype rfl)))))
  | false => exact bind_step rfl (bind_step rfl (bind_step rfl (bind_step rfl
      (bind_step htype rfl))))

theorem Ty.ReadsAt.reference (h : t.ReadsAt n false) (lifetime : Option String) (isMut : Bool) :
    (Ty.reference lifetime isMut t).ReadsAt (n + 1) allowPlus := by
  refine ⟨fun _ => ⟨rfl, rfl, rfl, rfl, rfl, rfl, rfl, rfl⟩, fun {_} _ => ⟨rfl, rfl⟩,
    fun {ts} hts => ?_⟩
  have htype := h.reads hts.noPlus
  have hleads := h.leads ts
  have hmut : keywordIf "mut" (wordIf isMut "mut" ++ (t.tokens ++ ts)) =
      some (isMut, t.tokens ++ ts) := by
    cases isMut with
    | true => rfl
    | false => exact keywordIf_eq_false hleads.mutable
  have hlifetime : lifetimeIf (lifetimeTokens lifetime ++
      (wordIf isMut "mut" ++ (t.tokens ++ ts))) =
        some (lifetime, wordIf isMut "mut" ++ (t.tokens ++ ts)) := by
    cases lifetime with
    | some name => rfl
    | none =>
        cases isMut with
        | true => rfl
        | false => exact bind_step rfl (else_step hleads.lifetime rfl)
  have htokens : (Ty.reference lifetime isMut t).tokens =
      sym "&" ++ lifetimeTokens lifetime ++ wordIf isMut "mut" ++ t.tokens := rfl
  rw [htokens]
  simp only [List.append_assoc]
  exact bind_step rfl (bind_step rfl (bind_step rfl
    (bind_step hlifetime (bind_step hmut (bind_step htype rfl)))))

/-- Types with commas between them, and perhaps one behind the last. -/
theorem commaList_of_readsAt {types : List Ty} (h : ∀ t ∈ types, t.ReadsAt n true)
    {trailing : Bool} (hempty : types = [] → trailing = false) :
    commaList ((ofFuel n).ty true) (separated comma trailing (types.map Ty.tokens)) =
      some ((types, trailing), []) := by
  have hitems : List.Forall₂ (fun part t => ∀ ts, EndsItem List.isEmpty ts →
      List.isEmpty (part ++ ts) = false ∧ (ofFuel n).ty true (part ++ ts) = some (t, ts))
      (types.map Ty.tokens) types := by
    rw [List.forall₂_map_left_iff, List.forall₂_same]
    exact fun t ht ts hts =>
      ⟨((h t ht).leads ts).nonempty, (h t ht).reads (endsType_of_endsItem hts true)⟩
  have hlist := separatedUntil_separated trailing [] (fun ts => rfl) rfl hitems
    fun hnil => hempty (List.map_eq_nil_iff.mp hnil)
  rwa [List.append_nil] at hlist

/-- Tuples of one element have a comma behind it, the unit has none. -/
def tupleEnds (trailing : Bool) : List Ty → Bool
  | [] => !trailing
  | [_] => trailing
  | _ => true

/-- What stands in the parentheses of a tuple: an element, a comma, and further elements. -/
theorem readsAt_tuple {elems : List Ty} {trailing : Bool} (h : ∀ t ∈ elems, t.ReadsAt n true)
    (hends : tupleEnds trailing elems = true) :
    (Ty.tuple elems trailing).ReadsAt (n + 1) allowPlus := by
  refine ⟨fun _ => ⟨rfl, rfl, rfl, rfl, rfl, rfl, rfl, rfl⟩, fun {_} _ => ⟨rfl, rfl⟩,
    fun {ts} hts => ?_⟩
  cases elems with
  | nil =>
      obtain rfl : trailing = false := by simpa [tupleEnds] using hends
      rfl
  | cons t rest =>
      obtain ⟨htype, hrest⟩ := List.forall_mem_cons.mp h
      obtain ⟨flag, hflag, htokens, hboth⟩ : ∃ flag, (rest = [] → flag = false) ∧
          tupleElems trailing ((t :: rest).map Ty.tokens) =
            t.tokens ++ (comma ++ separated comma flag (rest.map Ty.tokens)) ∧
          (flag || rest.isEmpty) = trailing := by
        cases rest with
        | nil =>
            obtain rfl : trailing = true := hends
            exact ⟨false, fun _ => rfl, by simp [tupleElems, separated], rfl⟩
        | cons next rest =>
            refine ⟨trailing, fun hnil => absurd hnil (List.cons_ne_nil _ _), ?_, by simp⟩
            rw [tupleElems, List.map_cons, List.map_cons, separated_cons_cons]
            simp
      have hcomma (ts : List Token) : opIf "," (comma ++ ts) = some (true, ts) := rfl
      have hleads := htype.leads (comma ++ separated comma flag (rest.map Ty.tokens))
      have hfirst := htype.reads (endsType_of_endsItem
        (.inr ⟨separated comma flag (rest.map Ty.tokens), rfl⟩) true)
      have hcontent : parenContent (.ofFuel n) (tupleElems trailing ((t :: rest).map Ty.tokens)) =
          some (.tuple (t :: rest) trailing, []) := by
        rw [htokens, ← hboth]
        exact bind_step rfl (else_step hleads.nonempty (else_step hleads.lifetime
          (else_step hleads.maybe (bind_step hfirst (bind_step (hcomma _)
            (bind_step (commaList_of_readsAt hrest hflag) rfl))))))
      rw [Ty.tokens, tyList_eq_map]
      exact bind_step rfl (bind_step rfl (bind_step (inside_group hcontent ts) rfl))

end

/-! ### Counting tokens -/

theorem countAll_append (ts ts' : List Token) :
    Token.countAll (ts ++ ts') = Token.countAll ts + Token.countAll ts' := by
  induction ts with
  | nil => simp [Token.countAll]
  | cons t ts ih => rw [List.cons_append, Token.countAll, Token.countAll, ih, Nat.add_assoc]

theorem countAll_le_separated (sep : List Token) (trailing : Bool) {part : List Token}
    {parts : List (List Token)} (h : part ∈ parts) :
    Token.countAll part ≤ Token.countAll (separated sep trailing parts) := by
  fun_induction separated sep trailing parts with
  | case1 => cases h
  | case2 last =>
      rw [List.mem_singleton.mp h, countAll_append]
      omega
  | case3 last => exact Nat.le_of_eq (congrArg Token.countAll (List.mem_singleton.mp h))
  | case4 next parts hparts ih =>
      rw [countAll_append, countAll_append]
      rcases List.mem_cons.mp h with rfl | h
      · omega
      · have := ih h
        omega

theorem countAll_inParens (ts : List Token) :
    Token.countAll (inParens ts) = Token.countAll ts + 1 := by
  simp [inParens, Token.countAll, Token.count]

theorem countAll_inBrackets (ts : List Token) :
    Token.countAll (inBrackets ts) = Token.countAll ts + 1 := by
  simp [inBrackets, Token.countAll, Token.count]

theorem length_le_countAll (ts : List Token) : ts.length ≤ Token.countAll ts := by
  induction ts with
  | nil => exact Nat.zero_le _
  | cons t ts ih =>
      have hcount : 1 ≤ t.count := by
        cases t <;> simp [Token.count]
      rw [Token.countAll, List.length_cons]
      omega

theorem countAll_le_flatten {part : List Token} {parts : List (List Token)} (h : part ∈ parts) :
    Token.countAll part ≤ Token.countAll parts.flatten := by
  induction parts with
  | nil => cases h
  | cons first parts ih =>
      rw [List.flatten_cons, countAll_append]
      rcases List.mem_cons.mp h with rfl | h
      · omega
      · have := ih h
        omega

end ApiClient.Code
