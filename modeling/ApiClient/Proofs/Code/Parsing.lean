import ApiClient.Proofs.Code.CallTokens
import Mathlib.Data.List.Forall2

/-!
What parsers do with tokens that are known at the front. `bind_step` takes one step of a rule; lists
are read part by part, each in front of what may follow it.
-/

namespace ApiClient.Code.Parser

variable {α β : Type}

/-! ### Steps -/

/-- One step of a rule: what the first parser reads goes to the rest. -/
theorem bind_step {p : Parser α} {f : α → Parser β} {ts rest : List Token} {x : α}
    {y : Option (β × List Token)} (h : p ts = some (x, rest)) (hf : f x rest = y) :
    (p >>= f) ts = y := by
  change (p ts).bind (fun r => f r.1 r.2) = y
  rw [h]
  exact hf

theorem guardThat_step {b : Bool} {f : Unit → Parser β} {ts : List Token}
    {y : Option (β × List Token)} (h : b = true) (hf : f () ts = y) :
    (guardThat b >>= f) ts = y := by
  subst h
  exact bind_step rfl hf

theorem then_step {b : Bool} {p q : Parser α} {ts : List Token} {y : Option (α × List Token)}
    (h : b = true) (hp : p ts = y) : (if b then p else q) ts = y := by
  subst h
  exact hp

theorem else_step {b : Bool} {p q : Parser α} {ts : List Token} {y : Option (α × List Token)}
    (h : b = false) (hq : q ts = y) : (if b then p else q) ts = y := by
  subst h
  exact hq

theorem bind_eq_some {p : Parser α} {f : α → Parser β} {ts : List Token} {y : β × List Token} :
    (p >>= f) ts = some y ↔ ∃ x rest, p ts = some (x, rest) ∧ f x rest = some y := by
  change (p ts).bind (fun r => f r.1 r.2) = some y ↔ _
  rw [Option.bind_eq_some_iff, Prod.exists]

theorem bind_eq_none {p : Parser α} {f : α → Parser β} {ts : List Token} (h : p ts = none) :
    (p >>= f) ts = none := by
  change (p ts).bind (fun r => f r.1 r.2) = none
  rw [h]
  rfl

/-- Where one rule fails and another one does not, it is not in a step that both begin with. -/
theorem bind_differs {p : Parser α} {f f' : α → Parser β} {ts : List Token} {y : β × List Token}
    (hnone : (p >>= f) ts = none) (hsome : (p >>= f') ts = some y) :
    ∃ x rest, p ts = some (x, rest) ∧ f x rest = none ∧ f' x rest = some y := by
  obtain ⟨x, rest, hp, hf'⟩ := bind_eq_some.mp hsome
  exact ⟨x, rest, hp, (bind_step hp rfl).symm.trans hnone, hf'⟩

theorem isIdentToken_word {name : String} (h : name ∉ reservedWords) (rest : List Token) :
    isIdentToken (word name ++ rest) = true := by
  change (!reservedWords.contains name) = true
  simpa using h

theorem ident_word {name : String} (h : name ∉ reservedWords) (rest : List Token) :
    ident (word name ++ rest) = some (name, rest) :=
  bind_step rfl (guardThat_step (isIdentToken_word h rest) rfl)

theorem inside_group {d : Delimiter} {p : Parser α} {body : List Token} {x : α}
    (h : p body = some (x, [])) (rest : List Token) :
    inside d p (.group d body :: rest) = some (x, rest) := by
  have hrun : (liftM (run? p body) : Parser α) (.group d body :: rest) =
      some (x, .group d body :: rest) := by
    change (run? p body).bind _ = _
    rw [run?, h]
    rfl
  exact bind_step rfl (guardThat_step (decide_eq_true rfl) (bind_step hrun rfl))

/-! ### What was taken -/

section

variable {ts rest : List Token}

theorem isWordToken_iff {w : String} : isWordToken w ts = true ↔ ts = word w ++ ts.drop 1 := by
  match ts with
  | .ident name :: rest => simp [isWordToken, word]
  | [] | .punct _ _ :: rest | .literal _ :: rest | .group _ _ :: rest => simp [isWordToken, word]

theorem keyword_apply (w : String) (ts : List Token) :
    keyword w ts = if isWordToken w ts then some ((), ts.drop 1) else none := by
  change (guardThat (isWordToken w ts) >>= fun _ => modify (·.drop 1)) ts = _
  cases isWordToken w ts <;> rfl

theorem keyword_eq_some {w : String} {u : Unit} (h : keyword w ts = some (u, rest)) :
    ts = word w ++ rest := by
  rw [keyword_apply] at h
  split at h
  case isTrue hword =>
    cases h
    exact isWordToken_iff.mp hword
  case isFalse => cases h

theorem keywordIf_eq_some {w : String} {b : Bool} (h : keywordIf w ts = some (b, rest)) :
    ts = wordIf b w ++ rest := by
  change (if isWordToken w ts then (keyword w >>= fun _ => pure true) else pure false :
    Parser Bool) ts = _ at h
  split at h
  · obtain ⟨_, _, hword, h⟩ := bind_eq_some.mp h
    cases h
    exact keyword_eq_some hword
  · cases h
    rfl

theorem op_apply (s : String) (ts : List Token) :
    op s ts = (afterOp? s.toList ts).map fun rest => ((), rest) := by
  unfold op
  refine bind_step rfl ?_
  cases afterOp? s.toList ts <;> rfl

theorem run?_eq_some {p : Parser α} {x : α} : run? p ts = some x ↔ p ts = some (x, []) := by
  rw [run?]
  constructor
  · intro h
    split at h
    case h_1 hp =>
      cases h
      exact hp
    case h_2 => cases h
  · intro h
    rw [h]

theorem inside_eq_some {d : Delimiter} {p : Parser α} {x : α}
    (h : inside d p ts = some (x, rest)) :
    ∃ body, ts = .group d body :: rest ∧ p body = some (x, []) := by
  unfold inside at h
  obtain ⟨_, _, hget, hgroup⟩ := bind_eq_some.mp h
  cases hget
  split at hgroup
  case h_1 d' body ts =>
    obtain ⟨_, _, hguard, hinside⟩ := bind_eq_some.mp hgroup
    by_cases hd : d = d'
    · subst hd
      rw [decide_eq_true rfl] at hguard
      cases hguard
      obtain ⟨y, _, hrun, hend⟩ := bind_eq_some.mp hinside
      replace hrun : (run? p body).bind _ = _ := hrun
      obtain ⟨z, hz, heq⟩ := Option.bind_eq_some_iff.mp hrun
      cases heq
      cases hend
      exact ⟨body, rfl, run?_eq_some.mp hz⟩
    · rw [decide_eq_false hd] at hguard
      cases hguard
  case h_2 => cases hgroup

/-- An operator is there or nothing is taken. -/
theorem opIf_eq_some {s : String} {b : Bool} (h : opIf s ts = some (b, rest)) :
    (b = false ∧ isOp s ts = false ∧ rest = ts) ∨
      (b = true ∧ afterOp? s.toList ts = some rest) := by
  change (if isOp s ts then (op s >>= fun _ => pure true) else pure false : Parser Bool) ts = _ at h
  split at h
  case isTrue =>
    obtain ⟨_, _, hop, h⟩ := bind_eq_some.mp h
    cases h
    rw [op_apply, Option.map_eq_some_iff] at hop
    obtain ⟨_, hafter, heq⟩ := hop
    cases heq
    exact .inr ⟨rfl, hafter⟩
  case isFalse hop =>
    cases h
    exact .inl ⟨rfl, by simpa using hop, rfl⟩

theorem opIf_eq_true {s : String} (h : afterOp? s.toList ts = some rest) :
    opIf s ts = some (true, rest) := by
  have htaken : op s ts = some ((), rest) := by rw [op_apply, h]; rfl
  exact bind_step rfl (then_step (by rw [isOp, h]; rfl) (bind_step htaken rfl))

/-- An operator begins with its first character, joined to the next one. -/
theorem eq_of_afterOp? {c : Char} {cs : List Char} (h : afterOp? (c :: cs) ts = some rest) :
    ∃ joint ts', ts = .punct c joint :: ts' ∧ afterOp? cs ts' = some rest ∧
      (cs ≠ [] → joint = true) := by
  cases cs with
  | nil =>
      match ts, h with
      | .punct c' joint :: ts', h =>
          rw [afterOp?] at h
          split at h
          case isTrue hc => exact ⟨joint, ts', by rw [hc], h, fun hne => absurd rfl hne⟩
          case isFalse => cases h
  | cons d cs =>
      match ts, h with
      | .punct c' true :: ts', h =>
          rw [afterOp?] at h
          · split at h
            case isTrue hc => exact ⟨true, ts', by rw [hc], h, fun _ => rfl⟩
            case isFalse => cases h
          · exact List.cons_ne_nil d cs

end

/-! ### Lists -/

section

variable {stop test : List Token → Bool} {item : Parser α} {parts : List (List Token)} {xs : List α}
  {trailing : Bool} {rest : List Token}

/-- What may follow an item of a list with commas. -/
def EndsItem (stop : List Token → Bool) (ts : List Token) : Prop :=
  stop ts = true ∨ ∃ rest, ts = comma ++ rest

theorem separated_cons_cons (sep part next : List Token) (trailing : Bool)
    (parts : List (List Token)) :
    separated sep trailing (part :: next :: parts) =
      part ++ (sep ++ separated sep trailing (next :: parts)) := by
  rw [separated, List.append_assoc]
  exact List.cons_ne_nil _ _

theorem length_le_length_separated {sep : List Token} (hsep : sep ≠ []) (trailing : Bool)
    (hparts : ∀ part ∈ parts, part ≠ []) (rest : List Token) :
    parts.length ≤ (separated sep trailing parts ++ rest).length := by
  have hlength : 0 < sep.length := List.length_pos_iff.mpr hsep
  fun_induction separated sep trailing parts with
  | case1 => exact Nat.zero_le _
  | case2 last =>
      simp only [List.length_append, List.length_singleton]
      omega
  | case3 last =>
      have hlast := List.length_pos_iff.mpr (hparts last List.mem_cons_self)
      simp only [List.length_append, List.length_singleton]
      omega
  | case4 part parts hne ih =>
      have hrest := ih fun part hpart => hparts part (List.mem_cons_of_mem _ hpart)
      simp only [List.length_append, List.length_cons] at hrest ⊢
      omega

theorem ne_nil_of_forall₂ (hrest : stop rest = true)
    (h : List.Forall₂ (fun part (_ : α) => stop (part ++ rest) = false) parts xs) :
    ∀ part ∈ parts, part ≠ [] := by
  induction h with
  | nil => exact nofun
  | cons hpart hall ih =>
      refine List.forall_mem_cons.mpr ⟨?_, ih⟩
      rintro rfl
      exact Bool.noConfusion (hpart.symm.trans hrest)

theorem separatedUntil_loop (hstop : ∀ ts, stop (comma ++ ts) = false) (hrest : stop rest = true)
    (h : List.Forall₂ (fun part x => ∀ ts, EndsItem stop ts →
      stop (part ++ ts) = false ∧ item (part ++ ts) = some (x, ts)) parts xs)
    {n : Nat} (hn : parts.length < n) :
    separatedUntil.loop "," stop item n (separated comma trailing parts ++ rest) =
      some ((xs, trailing || parts.isEmpty), rest) := by
  induction h generalizing n with
  | nil =>
      obtain ⟨n, rfl⟩ : ∃ m, n = m + 1 := ⟨n - 1, by simp at hn; omega⟩
      rw [separatedUntil.loop, List.isEmpty_nil, Bool.or_true]
      exact bind_step rfl (then_step hrest rfl)
  | @cons part x parts xs hpart hall ih =>
      obtain ⟨n, rfl⟩ : ∃ m, n = m + 1 := ⟨n - 1, by omega⟩
      rw [separatedUntil.loop, List.isEmpty_cons, Bool.or_false]
      cases hall with
      | nil =>
          cases trailing with
          | false =>
              obtain ⟨hhead, hitem⟩ := hpart rest (.inl hrest)
              exact bind_step rfl (else_step hhead (bind_step hitem
                (bind_step rfl (then_step hrest rfl))))
          | true =>
              obtain ⟨hhead, hitem⟩ := hpart (comma ++ rest) (.inr ⟨rest, rfl⟩)
              have hloop := ih (n := n) (by simpa using hn)
              rw [separated, if_pos rfl, List.append_assoc]
              exact bind_step rfl (else_step hhead (bind_step hitem
                (bind_step rfl (else_step (hstop rest) (bind_step rfl (bind_step hloop rfl))))))
      | @cons next y parts xs hnext hall =>
          obtain ⟨hhead, hitem⟩ := hpart
            (comma ++ (separated comma trailing (next :: parts) ++ rest)) (.inr ⟨_, rfl⟩)
          have hloop := ih (n := n) (by simpa using hn)
          rw [List.isEmpty_cons, Bool.or_false] at hloop
          rw [separated_cons_cons, List.append_assoc, List.append_assoc]
          exact bind_step rfl (else_step hhead (bind_step hitem
            (bind_step rfl (else_step (hstop _) (bind_step rfl (bind_step hloop rfl))))))

/-- Items with commas between them, and perhaps one behind the last. -/
theorem separatedUntil_separated (trailing : Bool) (rest : List Token)
    (hstop : ∀ ts, stop (comma ++ ts) = false) (hrest : stop rest = true)
    (h : List.Forall₂ (fun part x => ∀ ts, EndsItem stop ts →
      stop (part ++ ts) = false ∧ item (part ++ ts) = some (x, ts)) parts xs)
    (hempty : parts = [] → trailing = false) :
    separatedUntil "," stop item (separated comma trailing parts ++ rest) =
      some ((xs, trailing), rest) := by
  have hparts := ne_nil_of_forall₂ hrest (h.imp fun _ _ hpart => (hpart rest (.inl hrest)).1)
  have hlength := length_le_length_separated (List.cons_ne_nil (Token.punct ',' false) [])
    trailing hparts rest
  refine bind_step rfl (bind_step (separatedUntil_loop hstop hrest h
    (Nat.lt_add_one_of_le hlength)) ?_)
  cases h with
  | nil =>
      rw [hempty rfl]
      rfl
  | cons =>
      rw [List.isEmpty_cons, Bool.or_false]
      cases trailing <;> rfl

/-! ### Sums -/

theorem whileSeparated_loop {follows : List Token → Prop}
    (h : List.Forall₂ (fun part x => ∀ ts, follows ts →
      stop (part ++ ts) = false ∧ item (part ++ ts) = some (x, ts)) parts xs)
    (hplus : ∀ ts, follows (sym "+" ++ ts)) (hrest : follows rest) (hend : isOp "+" rest = false)
    (hstop : trailing = true ∨ parts = [] → stop rest = true) {n : Nat} (hn : parts.length < n) :
    whileSeparated.loop "+" stop item n (separated (sym "+") trailing parts ++ rest) =
      some ((xs, trailing || parts.isEmpty), rest) := by
  induction h generalizing n with
  | nil =>
      obtain ⟨n, rfl⟩ : ∃ m, n = m + 1 := ⟨n - 1, by simp at hn; omega⟩
      rw [whileSeparated.loop, List.isEmpty_nil, Bool.or_true]
      exact bind_step rfl (then_step (hstop (.inr rfl)) rfl)
  | @cons part x parts xs hpart hall ih =>
      obtain ⟨n, rfl⟩ : ∃ m, n = m + 1 := ⟨n - 1, by omega⟩
      rw [whileSeparated.loop, List.isEmpty_cons, Bool.or_false]
      cases hall with
      | nil =>
          cases trailing with
          | false =>
              obtain ⟨hhead, hitem⟩ := hpart rest hrest
              exact bind_step rfl (else_step hhead (bind_step hitem
                (bind_step (bind_step rfl (else_step hend rfl)) rfl)))
          | true =>
              obtain ⟨hhead, hitem⟩ := hpart (sym "+" ++ rest) (hplus rest)
              have hloop := ih (fun _ => hstop (.inl rfl)) (n := n) (by simpa using hn)
              rw [separated, if_pos rfl, List.append_assoc]
              exact bind_step rfl (else_step hhead (bind_step hitem
                (bind_step rfl (bind_step hloop rfl))))
      | @cons next y parts xs hnext hall =>
          obtain ⟨hhead, hitem⟩ := hpart _
            (hplus (separated (sym "+") trailing (next :: parts) ++ rest))
          have hloop := ih (fun h => hstop (h.imp_right fun hnil => absurd hnil (List.cons_ne_nil _ _))) (n := n) (by simpa using hn)
          rw [List.isEmpty_cons, Bool.or_false] at hloop
          rw [separated_cons_cons, List.append_assoc, List.append_assoc]
          exact bind_step rfl (else_step hhead (bind_step hitem
            (bind_step rfl (bind_step hloop rfl))))

/-- Items with plus signs between them, and perhaps one behind the last. -/
theorem whileSeparated_separated {follows : List Token → Prop}
    (h : List.Forall₂ (fun part x => ∀ ts, follows ts →
      stop (part ++ ts) = false ∧ item (part ++ ts) = some (x, ts)) parts xs)
    (hplus : ∀ ts, follows (sym "+" ++ ts)) (hrest : follows rest) (hend : isOp "+" rest = false)
    (hstop : trailing = true ∨ parts = [] → stop rest = true)
    (hparts : ∀ part ∈ parts, part ≠ []) (hempty : parts = [] → trailing = false) :
    whileSeparated "+" stop item (separated (sym "+") trailing parts ++ rest) =
      some ((xs, trailing), rest) := by
  have hlength := length_le_length_separated (List.cons_ne_nil (Token.punct '+' false) [])
    trailing hparts rest
  refine bind_step rfl (bind_step (whileSeparated_loop h hplus hrest hend hstop
    (Nat.lt_add_one_of_le hlength)) ?_)
  cases h with
  | nil =>
      rw [hempty rfl]
      rfl
  | cons =>
      rw [List.isEmpty_cons, Bool.or_false]
      cases trailing <;> rfl

/-- A part that is read as `x` in front of what may follow it, such as further parts. -/
structure ReadsWhile (test : List Token → Bool) (item : Parser α) (follows : List Token → Prop)
    (part : List Token) (x : α) : Prop where
  passes {ts : List Token} : follows ts → test (part ++ ts) = true
  leads {ts : List Token} : follows ts → follows (part ++ ts)
  reads {ts : List Token} : follows ts → item (part ++ ts) = some (x, ts)

theorem manyWhile_loop {follows : List Token → Prop} (htest : test rest = false)
    (hrest : follows rest) (h : List.Forall₂ (ReadsWhile test item follows) parts xs) {n : Nat}
    (hn : parts.length < n) :
    follows (parts.flatten ++ rest) ∧
      manyWhile.loop test item n (parts.flatten ++ rest) = some (xs, rest) := by
  induction h generalizing n with
  | nil =>
      obtain ⟨n, rfl⟩ : ∃ m, n = m + 1 := ⟨n - 1, by simp at hn; omega⟩
      exact ⟨hrest, bind_step rfl (else_step htest rfl)⟩
  | @cons part x parts xs hpart hall ih =>
      obtain ⟨n, rfl⟩ : ∃ m, n = m + 1 := ⟨n - 1, by omega⟩
      obtain ⟨hfollows, hloop⟩ := ih (n := n) (by simpa using hn)
      rw [List.flatten_cons, List.append_assoc]
      refine ⟨hpart.leads hfollows, bind_step rfl ?_⟩
      rw [hpart.passes hfollows, if_pos rfl]
      exact bind_step (hpart.reads hfollows) (bind_step hloop rfl)

/-- Parts one after the other, up to where the test fails. -/
theorem manyWhile_flatten (follows : List Token → Prop) (htest : test rest = false)
    (hrest : follows rest) (h : List.Forall₂ (ReadsWhile test item follows) parts xs) :
    manyWhile test item (parts.flatten ++ rest) = some (xs, rest) := by
  have hlength : parts.length ≤ parts.flatten.length := by
    induction h with
    | nil => exact Nat.zero_le _
    | @cons part x parts xs hpart hall ih =>
        have hpos : 0 < part.length := by
          refine List.length_pos_iff.mpr ?_
          rintro rfl
          exact Bool.noConfusion ((hpart.passes hrest).symm.trans htest)
        simp only [List.flatten_cons, List.length_append, List.length_cons]
        omega
  refine bind_step rfl (manyWhile_loop htest hrest h ?_).2
  simp only [List.length_append]
  omega

end

end ApiClient.Code.Parser
