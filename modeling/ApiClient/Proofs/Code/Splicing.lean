import ApiClient.Proofs.Code.TypeReading

/-!
Reading in front of a comma or a closing angle bracket. Rules look ahead by a token or two; with one
of these marks behind the tokens they see the same, as long as no dash at the end makes an arrow of
it. So a parser that comes to the end of its tokens does the same where generic arguments go on.
-/

namespace ApiClient.Code

open ApiClient.Code.Parser Grammar

/-! ### What stands behind -/

/-- The last token is a dash that is joined to the next one, so that `>` behind it makes an arrow. -/
def EndsInDash (ts : List Token) : Prop := ts.getLast? = some (.punct '-' true)

theorem EndsInDash.of_suffix {ts rest : List Token} (hrest : rest <:+ ts) (h : EndsInDash rest) :
    EndsInDash ts := by
  obtain ⟨taken, rfl⟩ := hrest
  rw [EndsInDash, List.getLast?_append, h]
  rfl

theorem EndsInDash.of_append {taken rest : List Token} (h : EndsInDash (taken ++ rest))
    (htaken : ¬EndsInDash taken) : EndsInDash rest := by
  rw [EndsInDash, List.getLast?_append] at h
  cases hrest : rest.getLast? with
  | none => exact absurd (by rwa [hrest] at h) htaken
  | some t =>
      rw [hrest] at h
      exact hrest.trans h

theorem EndsArgument.exists_punct {more : List Token} (h : EndsArgument more) :
    ∃ c joint rest, more = .punct c joint :: rest ∧ (c = ',' ∨ c = '>') := by
  rcases h with hangle | ⟨rest, rfl⟩
  · obtain ⟨joint, rest, rfl⟩ := eq_of_isOp_angle hangle
    exact ⟨'>', joint, rest, rfl, .inr rfl⟩
  · exact ⟨',', false, rest, rfl, .inl rfl⟩

namespace Parser

section

variable {α β : Type} {more ts rest : List Token}

/-- One parser reads `x` where `more` stands behind what another one reads it from. -/
structure Carried (more ts : List Token) (q : Parser α) (x : α) (rest : List Token) : Prop where
  suffix : rest <:+ ts
  dash : EndsInDash ts → EndsInDash rest
  reads : ¬EndsInDash ts → q (ts ++ more) = some (x, rest ++ more)

/-- Whatever the first parser reads, the second one reads where `more` stands behind. -/
def Carries (more ts : List Token) (p q : Parser α) : Prop :=
  ∀ x rest, p ts = some (x, rest) → Carried more ts q x rest

/-- A parser that reads in the same way wherever `more` stands behind. -/
def Local (more : List Token) (p : Parser α) : Prop := ∀ ts, Carries more ts p p

theorem Carried.of_append (taken : List Token) {q : Parser α} {x : α}
    (htaken : ¬EndsInDash taken) (hq : q (taken ++ (rest ++ more)) = some (x, rest ++ more)) :
    Carried more (taken ++ rest) q x rest where
  suffix := List.suffix_append taken rest
  dash h := h.of_append htaken
  reads _ := by rwa [List.append_assoc]

namespace Carries

theorem of_eq_none {p q : Parser α} (h : p ts = none) : Carries more ts p q :=
  fun _ _ hp => nomatch h.symm.trans hp

theorem failure {q : Parser α} : Carries more ts failure q := of_eq_none rfl

theorem pure (x : α) : Carries more ts (pure x) (pure x) := by
  intro y rest h
  cases h
  exact ⟨List.suffix_rfl, id, fun _ => rfl⟩

theorem bind {p q : Parser α} {f f' : α → Parser β} (hp : Carries more ts p q)
    (hf : ∀ x rest, Carries more rest (f x) (f' x)) :
    Carries more ts (p >>= f) (q >>= f') := by
  intro y rest' h
  obtain ⟨x, rest, hx, hy⟩ := bind_eq_some.mp h
  have hfirst := hp x rest hx
  have hsecond := hf x rest y rest' hy
  refine ⟨hsecond.suffix.trans hfirst.suffix, fun h => hsecond.dash (hfirst.dash h), fun h => ?_⟩
  exact bind_step (hfirst.reads h)
    (hsecond.reads fun hrest => h (hrest.of_suffix hfirst.suffix))

theorem map {p q : Parser α} {f : α → β} (hp : Carries more ts p q) :
    Carries more ts (f <$> p) (f <$> q) := by
  rw [← bind_pure_comp, ← bind_pure_comp]
  exact hp.bind fun _ _ => .pure _

theorem get {f f' : List Token → Parser β} (h : Carries more ts (f ts) (f' (ts ++ more))) :
    Carries more ts (MonadState.get >>= f) (MonadState.get >>= f') := by
  intro y rest hy
  obtain ⟨_, _, hget, hy⟩ := bind_eq_some.mp hy
  cases hget
  have hcarried := h y rest hy
  exact ⟨hcarried.suffix, hcarried.dash, fun hts => bind_step rfl (hcarried.reads hts)⟩

theorem ite {b b' : Bool} {p p' q q' : Parser α} (hb : b' = b)
    (hp : Carries more ts p q) (hp' : Carries more ts p' q') :
    Carries more ts (if b then p else p') (if b' then q else q') := by
  subst hb
  cases b' with
  | true => exact hp
  | false => exact hp'

theorem guardThat {b b' : Bool} (hb : b' = b) :
    Carries more ts (guardThat b) (guardThat b') :=
  ite hb (pure ()) failure

/-- Going on behind tokens that were seen. -/
theorem set (taken : List Token) (htaken : ¬EndsInDash taken) :
    Carries more (taken ++ rest) (MonadStateOf.set rest) (MonadStateOf.set (rest ++ more)) := by
  intro x rest' h
  cases h
  exact .of_append taken htaken rfl

/-- The tokens taken do not depend on what stands behind. -/
theorem tokensSince (start : List Token) :
    Carries more ts (tokensSince start) (tokensSince (start ++ more)) := by
  intro y rest h
  cases h
  refine ⟨List.suffix_rfl, id, fun _ => ?_⟩
  have htaken : (start ++ more).take ((start ++ more).length - (ts ++ more).length) =
      start.take (start.length - ts.length) := by
    rw [List.length_append, List.length_append, Nat.add_sub_add_right,
      List.take_append_of_le_length (Nat.sub_le _ _)]
  exact bind_step rfl (congrArg (fun taken => some (taken, ts ++ more)) htaken)

end Carries

/-! ### Tests -/

/-- A test that looks at one token, for which punctuation is like no token. -/
theorem test_append {test : List Token → Bool} (hmore : EndsArgument more)
    (hone : ∀ t ts ts', test (t :: ts) = test (t :: ts'))
    (hpunct : ∀ c joint, test [.punct c joint] = test []) (ts : List Token) :
    test (ts ++ more) = test ts := by
  obtain ⟨c, joint, rest, rfl, -⟩ := hmore.exists_punct
  cases ts with
  | nil => exact (hone _ rest []).trans (hpunct c joint)
  | cons t ts => exact hone t _ ts

theorem isGroup_append (hmore : EndsArgument more) (d : Delimiter) (ts : List Token) :
    isGroup d (ts ++ more) = isGroup d ts :=
  test_append hmore (fun t _ _ => by cases t <;> rfl) (fun _ _ => rfl) ts

theorem isWordToken_append (hmore : EndsArgument more) (w : String) (ts : List Token) :
    isWordToken w (ts ++ more) = isWordToken w ts :=
  test_append hmore (fun t _ _ => by cases t <;> rfl) (fun _ _ => rfl) ts

theorem isAnyIdent_append (hmore : EndsArgument more) (ts : List Token) :
    isAnyIdent (ts ++ more) = isAnyIdent ts :=
  test_append hmore (fun t _ _ => by cases t <;> rfl) (fun _ _ => rfl) ts

theorem isIdentToken_append (hmore : EndsArgument more) (ts : List Token) :
    isIdentToken (ts ++ more) = isIdentToken ts :=
  test_append hmore (fun t _ _ => by cases t <;> rfl) (fun _ _ => rfl) ts

theorem isOneOf_append (hmore : EndsArgument more) (words : List String) (ts : List Token) :
    isOneOf words (ts ++ more) = isOneOf words ts := by
  simp only [isOneOf, isWordToken_append hmore]

theorem isLifetime_append (hmore : EndsArgument more) (ts : List Token) :
    isLifetime (ts ++ more) = isLifetime ts := by
  obtain ⟨c, joint, rest, rfl, hc⟩ := hmore.exists_punct
  have hquote : c ≠ '\'' := by
    rcases hc with rfl | rfl <;> decide
  rcases ts with _ | ⟨t, _ | ⟨t', ts⟩⟩ <;> unfold isLifetime <;> split <;> simp_all

theorem eq_of_isLifetime (h : isLifetime ts = true) :
    ∃ name rest, ts = Token.lifetime name ++ rest := by
  unfold isLifetime at h
  split at h
  case h_1 name rest => exact ⟨name, rest, rfl⟩
  case h_2 => cases h

theorem isLiteralToken_append (hmore : EndsArgument more) (ts : List Token) :
    isLiteralToken (ts ++ more) = isLiteralToken ts := by
  obtain ⟨c, joint, rest, rfl, hc⟩ := hmore.exists_punct
  have hdash : c ≠ '-' := by
    rcases hc with rfl | rfl <;> decide
  rcases ts with _ | ⟨t, _ | ⟨t', ts⟩⟩ <;> unfold isLiteralToken <;> split <;> simp_all

/-- Neither mark goes on the operator. -/
def isApart (s : String) : Bool := !(s.toList.contains ',' || s.toList.contains '>')

theorem afterOp?_append {c : Char} {cs : List Char} (hcs : c ∉ cs) (joint : Bool)
    (ts rest : List Token) : afterOp? cs (ts ++ .punct c joint :: rest) =
      (afterOp? cs ts).map (· ++ .punct c joint :: rest) := by
  induction cs generalizing ts with
  | nil => cases ts <;> rfl
  | cons d cs ih =>
      obtain ⟨hd, hcs⟩ := List.ne_and_not_mem_of_not_mem_cons hcs
      rcases ts with _ | ⟨t, ts⟩
      · cases cs <;> cases joint <;> simp [afterOp?, Ne.symm hd]
      cases t with
      | punct e goesOn =>
          cases cs with
          | nil =>
              simp only [List.cons_append, afterOp?]
              split <;> rfl
          | cons d' cs =>
              cases goesOn with
              | false => rfl
              | true =>
                  simp only [List.cons_append, afterOp?]
                  split
                  · exact ih hcs ts
                  · rfl
      | _ => cases cs <;> rfl

theorem isOp_append (hmore : EndsArgument more) {s : String} (hs : isApart s = true)
    (ts : List Token) : isOp s (ts ++ more) = isOp s ts := by
  obtain ⟨c, joint, rest, rfl, hc⟩ := hmore.exists_punct
  have hmem : c ∉ s.toList := by
    rcases hc with rfl | rfl <;> simp_all [isApart]
  rw [isOp, isOp, afterOp?_append hmem, Option.isSome_map]

/-- The arrow is not apart, but it takes a dash in front. -/
theorem isOp_arrow_append (hmore : EndsArgument more) (hts : ¬EndsInDash ts) :
    isOp "->" (ts ++ more) = isOp "->" ts := by
  obtain ⟨c, joint, rest, rfl, hc⟩ := hmore.exists_punct
  have hdash : '-' ≠ c := by
    rcases hc with rfl | rfl <;> decide
  match ts, hts with
  | [], _ => cases joint <;> simp [isOp, afterOp?, hdash]
  | [.punct d true], hts =>
      have hd : '-' ≠ d := by
        rintro rfl
        exact hts rfl
      simp [isOp, afterOp?, hd]
  | .punct d true :: .punct e _ :: ts, _ =>
      simp only [isOp, List.cons_append, String.reduceToList, afterOp?]
      split
      · split <;> rfl
      · rfl
  | .punct _ true :: .ident _ :: _, _ | .punct _ true :: .literal _ :: _, _
  | .punct _ true :: .group _ _ :: _, _ | .punct _ false :: _, _ | .ident _ :: _, _
  | .literal _ :: _, _ | .group _ _ :: _, _ => rfl

/-- One character is seen where there is a token at all. -/
theorem isOp_append_of_ne_nil {s : String} {c : Char} (hs : s.toList = [c]) (hts : ts ≠ []) :
    isOp s (ts ++ more) = isOp s ts := by
  obtain ⟨t, ts, rfl⟩ := List.exists_cons_of_ne_nil hts
  rw [isOp, isOp, hs]
  cases t with
  | punct d joint =>
      simp only [List.cons_append, afterOp?]
      split <;> rfl
  | _ => rfl

theorem drop_append_of_isOp_colons (h : isOp "::" ts = true) (more : List Token) :
    (ts ++ more).drop 2 = ts.drop 2 ++ more := by
  obtain ⟨rest, hafter⟩ : ∃ rest, afterOp? [':', ':'] ts = some rest :=
    Option.isSome_iff_exists.mp h
  obtain ⟨_, _, rfl, hafter, -⟩ := eq_of_afterOp? hafter
  obtain ⟨_, _, rfl, -, -⟩ := eq_of_afterOp? hafter
  rfl

/-- What is tested behind two colons. -/
theorem colonsThen_append (test : List Token → Bool) (hmore : EndsArgument more)
    (htest : ∀ ts, test (ts ++ more) = test ts) (ts : List Token) :
    (isOp "::" (ts ++ more) && test ((ts ++ more).drop 2)) =
      (isOp "::" ts && test (ts.drop 2)) := by
  rw [isOp_append hmore rfl]
  cases h : isOp "::" ts with
  | false => rfl
  | true => rw [drop_append_of_isOp_colons h, htest]

/-- A test that is the same with `more` behind where there is a token, and holds in front of `more`
if it holds at the end. -/
structure Lasts (more : List Token) (test : List Token → Bool) : Prop where
  ahead {ts : List Token} : ts ≠ [] → test (ts ++ more) = test ts
  atEnd : test [] = true → test more = true

theorem Lasts.of_append {test : List Token → Bool} (h : ∀ ts, test (ts ++ more) = test ts) :
    Lasts more test :=
  ⟨fun {ts} _ => h ts, fun hnil => (h []).trans hnil⟩

theorem Lasts.append_eq {test : List Token → Bool} (h : Lasts more test) (ts : List Token) :
    test (ts ++ more) = test ts ∨ (ts = [] ∧ test [] = false) := by
  by_cases hts : ts = []
  · subst hts
    cases hnil : test [] with
    | true => exact .inl (h.atEnd hnil)
    | false => exact .inr ⟨rfl, rfl⟩
  · exact .inl (h.ahead hts)

/-! ### Taking tokens -/

theorem exists_of_afterOp? {cs : List Char} (h : afterOp? cs ts = some rest)
    (hcs : cs.getLast? ≠ some '-') : ∃ taken, ts = taken ++ rest ∧ ¬EndsInDash taken ∧
      ∀ ts', afterOp? cs (taken ++ ts') = some ts' := by
  induction cs generalizing ts with
  | nil =>
      cases h
      exact ⟨[], rfl, nofun, fun _ => rfl⟩
  | cons c cs ih =>
      obtain ⟨joint, ts, rfl, hafter, hjoint⟩ := eq_of_afterOp? h
      cases cs with
      | nil =>
          cases hafter
          refine ⟨[.punct c joint], rfl, ?_, fun ts' => by simp [afterOp?]⟩
          intro hdash
          cases hdash
          exact hcs rfl
      | cons d cs =>
          obtain rfl := hjoint (List.cons_ne_nil d cs)
          obtain ⟨taken, rfl, htaken, hforward⟩ := ih hafter (by simpa using hcs)
          refine ⟨.punct c true :: taken, rfl, ?_, fun ts' => by simpa [afterOp?] using hforward ts'⟩
          cases taken with
          | nil =>
              have hnil := hforward []
              cases cs <;> cases hnil
          | cons t taken => simpa [EndsInDash] using htaken

namespace Local

theorem op {s : String} (hs : s.toList.getLast? ≠ some '-') : Local more (op s) := by
  intro ts x rest h
  rw [op_apply, Option.map_eq_some_iff] at h
  obtain ⟨_, hafter, heq⟩ := h
  cases heq
  obtain ⟨taken, rfl, htaken, hforward⟩ := exists_of_afterOp? hafter hs
  exact .of_append taken htaken (by rw [op_apply, hforward]; rfl)

theorem opIf (hmore : EndsArgument more) {s : String} (hs : isApart s = true)
    (hlast : s.toList.getLast? ≠ some '-') : Local more (opIf s) := by
  intro ts
  exact .get (.ite (isOp_append hmore hs ts) (.bind (op hlast ts) fun _ _ => .pure true)
    (.pure false))

theorem arrowIf (hmore : EndsArgument more) : Local more (Parser.opIf "->") := by
  intro ts b rest h
  obtain ⟨rfl, hop, rfl⟩ | ⟨rfl, hafter⟩ := opIf_eq_some h
  · exact ⟨List.suffix_rfl, id,
      fun hts => opIf_eq_false ((isOp_arrow_append hmore hts).trans hop)⟩
  · obtain ⟨taken, rfl, htaken, hforward⟩ := exists_of_afterOp? hafter (by decide)
    exact .of_append taken htaken (opIf_eq_true (hforward _))

theorem keyword (w : String) : Local more (keyword w) := by
  intro ts x rest h
  obtain rfl := keyword_eq_some h
  refine .of_append _ nofun ?_
  rw [keyword_apply, isWordToken_word, beq_self_eq_true]
  rfl

theorem keywordIf (hmore : EndsArgument more) (w : String) : Local more (keywordIf w) := by
  intro ts
  exact .get (.ite (isWordToken_append hmore w ts)
    (.bind (keyword w ts) fun _ _ => .pure true) (.pure false))

theorem anyIdent : Local more anyIdent := by
  intro ts x rest h
  match ts, h with
  | .ident name :: ts, h =>
      cases h
      exact .of_append [.ident x] nofun rfl

theorem ident (hmore : EndsArgument more) : Local more ident := by
  intro ts
  exact .get (.bind (.guardThat (isIdentToken_append hmore ts)) fun _ _ => anyIdent _)

theorem identOr (hmore : EndsArgument more) (words : List String) :
    Local more (identOr words) := by
  intro ts
  refine .get (.bind (.guardThat ?_) fun _ _ => anyIdent _)
  rw [isIdentToken_append hmore, isOneOf_append hmore]

theorem lifetime : Local more lifetime := by
  intro ts x rest h
  unfold Parser.lifetime at h
  obtain ⟨_, _, hget, h⟩ := bind_eq_some.mp h
  cases hget
  split at h
  case h_1 name ts =>
    cases h
    exact .of_append (Token.lifetime x) nofun rfl
  case h_2 => cases h

theorem lifetimeIf (hmore : EndsArgument more) : Local more lifetimeIf := by
  intro ts
  exact .get (.ite (isLifetime_append hmore ts) (.bind (lifetime ts) fun _ _ => .pure _)
    (.pure none))

/-- What is inside a group has an end of its own. -/
theorem inside (d : Delimiter) (p : Parser α) : Local more (inside d p) := by
  intro ts x rest h
  obtain ⟨body, rfl, hp⟩ := inside_eq_some h
  exact .of_append [.group d body] nofun (inside_group hp _)

theorem macroBody (path : PlainPath) : Local more (macroBody path) := by
  intro ts x rest h
  match ts, h with
  | .group d body :: ts, h =>
      cases h
      exact .of_append [.group d body] nofun rfl

theorem literalExpr : Local more literalExpr := by
  intro ts x rest h
  unfold Parser.literalExpr at h
  obtain ⟨_, _, hget, h⟩ := bind_eq_some.mp h
  cases hget
  split at h
  case h_1 =>
    cases h
    exact .of_append [_] nofun rfl
  case h_2 =>
    cases h
    exact .of_append (word "true") nofun rfl
  case h_3 =>
    cases h
    exact .of_append (word "false") nofun rfl
  case h_4 joint l ts _ =>
    obtain ⟨_, _, hguard, h⟩ := bind_eq_some.mp h
    cases hkind : l.kind == .integer || l.kind == .float with
    | true =>
        rw [hkind] at hguard
        cases hguard
        cases h
        exact .of_append [.punct '-' joint, .literal l] nofun
          (bind_step rfl (guardThat_step hkind rfl))
    | false =>
        rw [hkind] at hguard
        cases hguard
  case h_5 => cases h

end Local

/-! ### Lists

The number of steps that a list may take grows with what stands behind. -/

section

variable {stop test : List Token → Bool} {item : Parser α} {n m : Nat}

theorem Carries.separatedUntil_loop (hstop : Lasts more stop) (hnil : stop [] = false)
    (hitem : Local more item) (hend : item [] = none) (h : n ≤ m) :
    Carries more ts (separatedUntil.loop "," stop item n) (separatedUntil.loop "," stop item m) := by
  induction n generalizing m ts with
  | zero => exact .failure
  | succ n ih =>
      obtain ⟨m, rfl⟩ := Nat.exists_eq_add_of_le' h
      unfold separatedUntil.loop
      refine .get ?_
      -- at the end there is neither an item nor a comma, so only the other case reads anything
      rcases hstop.append_eq ts with heq | ⟨rfl, -⟩
      · refine .ite heq (.pure _) (.bind (hitem ts) fun x rest => .get ?_)
        rcases hstop.append_eq rest with heq | ⟨rfl, -⟩
        · exact .ite heq (.pure _) (.bind (Local.op (by decide) rest) fun _ _ =>
            .bind (ih (Nat.le_add_left n m)) fun _ _ => .pure _)
        · exact .of_eq_none (else_step hnil rfl)
      · exact .of_eq_none (else_step hnil (bind_eq_none hend))

theorem Local.separatedUntil (hstop : Lasts more stop) (hnil : stop [] = false)
    (hitem : Local more item) (hend : item [] = none) :
    Local more (separatedUntil "," stop item) := by
  intro ts
  exact .get (.bind (.separatedUntil_loop hstop hnil hitem hend (by simp)) fun _ _ => .pure _)

theorem Carries.whileSeparated_loop (hmore : EndsArgument more) (hstop : Lasts more stop)
    (hitem : Local more item) (hend : item [] = none) (h : n ≤ m) :
    Carries more ts (whileSeparated.loop "+" stop item n) (whileSeparated.loop "+" stop item m) := by
  induction n generalizing m ts with
  | zero => exact .failure
  | succ n ih =>
      obtain ⟨m, rfl⟩ := Nat.exists_eq_add_of_le' h
      unfold whileSeparated.loop
      refine .get ?_
      rcases hstop.append_eq ts with heq | ⟨rfl, hnil⟩
      · refine .ite heq (.pure _) (.bind (hitem ts) fun x rest => ?_)
        refine .bind (Local.opIf hmore rfl (by decide) rest) fun goesOn _ => .ite rfl ?_ (.pure _)
        exact .bind (ih (Nat.le_add_left n m)) fun _ _ => .pure _
      · exact .of_eq_none (else_step hnil (bind_eq_none hend))

theorem Local.whileSeparated (hmore : EndsArgument more) (hstop : Lasts more stop)
    (hitem : Local more item) (hend : item [] = none) :
    Local more (whileSeparated "+" stop item) := by
  intro ts
  exact .get (.bind (.whileSeparated_loop hmore hstop hitem hend (by simp)) fun _ _ => .pure _)

theorem Carries.manyWhile_loop (htest : ∀ ts, test (ts ++ more) = test ts)
    (hitem : Local more item) (h : n ≤ m) :
    Carries more ts (manyWhile.loop test item n) (manyWhile.loop test item m) := by
  induction n generalizing m ts with
  | zero => exact .failure
  | succ n ih =>
      obtain ⟨m, rfl⟩ := Nat.exists_eq_add_of_le' h
      unfold manyWhile.loop
      refine .get (.ite (htest ts) (.bind (hitem ts) fun x rest => ?_) (.pure _))
      exact .bind (ih (Nat.le_add_left n m)) fun _ _ => .pure _

theorem Local.manyWhile (htest : ∀ ts, test (ts ++ more) = test ts) (hitem : Local more item) :
    Local more (manyWhile test item) := by
  intro ts
  exact .get (.manyWhile_loop htest hitem (by simp))

end

end

end Parser

end ApiClient.Code
