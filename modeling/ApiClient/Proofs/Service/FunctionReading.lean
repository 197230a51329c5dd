import ApiClient.Proofs.Code.NameReading
import ApiClient.Proofs.Code.TypeReading
import ApiClient.Proofs.Service.EmittedModule

/-!
The functions that operations are emitted as, as the rules of items read them. The types of an
operation stand in its function as generic arguments only, so a function is read where each of them
reads back.
-/

namespace ApiClient.Service

open Code ApiClient.Code.Parser ApiClient.Code.Grammar

/-! ### Arguments of the call -/

/-- An argument ends where the arguments do, or in front of a comma. -/
theorem endsArg_cases {ts : List Token} (h : EndsItem List.isEmpty ts) :
    ts = [] ∨ ∃ rest, ts = comma ++ rest :=
  h.imp_left List.isEmpty_iff.mp

theorem expr_literal {n : Nat} (l : Literal) {ts : List Token} (hts : EndsItem List.isEmpty ts) :
    (ofFuel (n + 1)).expr true ([.literal l] ++ ts) = some (.lit l, ts) := by
  rcases endsArg_cases hts with rfl | ⟨rest, rfl⟩ <;> rfl

/-- `Method::M, path, options`. -/
def argTokens (method : Method) (path : Literal) : List Token :=
  separated comma false [word "Method" ++ sym "::" ++ word method.name, [.literal path],
    word "options"]

theorem not_reserved_of_standard {method : Method} (h : method ∈ Method.standard) :
    method.name ∉ reservedWords := by
  have hall : ∀ m ∈ Method.standard, m.name ∉ reservedWords := by decide
  exact hall method h

theorem commaList_args {n : Nat} {method : Method} (h : method ∈ Method.standard)
    (path : Literal) :
    ∃ es, commaList ((ofFuel (n + 1)).expr true) (argTokens method path) =
      some ((es, false), []) := by
  have hargs : List.Forall₂ (fun part e => ∀ ts, EndsItem List.isEmpty ts →
      List.isEmpty (part ++ ts) = false ∧ (ofFuel (n + 1)).expr true (part ++ ts) = some (e, ts))
      [word "Method" ++ sym "::" ++ word method.name, [.literal path], word "options"]
      [.path (.plain false [.mk "Method" .none, .mk method.name .none]), .lit path,
        .path (.ofName "options")] := by
    have hname : IsPathWord method.name := .inl (not_reserved_of_standard h)
    have hnames : ∀ name ∈ ["Method", method.name], IsPathWord name :=
      List.forall_mem_cons.mpr ⟨.inl (by decide), List.forall_mem_singleton.mpr hname⟩
    have hoptions : ∀ name ∈ ["options"], IsPathWord name :=
      List.forall_mem_singleton.mpr (.inl (by decide))
    refine .cons (fun ts hts => ⟨rfl, ?_⟩) (.cons (fun ts hts => ⟨rfl, expr_literal path hts⟩)
      (.cons (fun ts hts => ⟨rfl, ?_⟩) .nil))
    · have hread := @expr_ofNames false _ ts n (List.cons_ne_nil _ _) hnames (endsArg_cases hts)
      rw [tokens_ofNames] at hread
      exact hread
    · have hread := @expr_ofNames false _ ts n (List.cons_ne_nil _ _) hoptions (endsArg_cases hts)
      rw [tokens_ofNames] at hread
      exact hread
  have hlist := separatedUntil_separated false [] (fun ts => rfl) rfl hargs
    fun _ => rfl
  rw [List.append_nil] at hlist
  exact ⟨_, hlist⟩

/-! ### The call and its statement -/

section

variable {n : Nat} {types : List Ty} {args : List GenericArg} {body : List Token} {es : List Expr}

/-- The tokens of `send::<types>(body);` and what follows. -/
def sendTokens (types : List Ty) (body rest : List Token) : List Token :=
  word "send" ++ ((SegmentArgs.angle true (types.map .type) false).tokens ++
    (inParens body ++ (sym ";" ++ rest)))

/-- `send::<args>`. -/
def sendPath (args : List GenericArg) : Path := .plain false [.mk "send" (.angle true args false)]

theorem pathExpr_send
    (hargs : ∀ rest, angleArgs (.ofFuel n)
      ((SegmentArgs.angle true (types.map .type) false).tokens ++ rest) =
        some (.angle true args false, rest)) (rest : List Token) :
    pathExpr (.ofFuel n) true (sendTokens types body rest) =
      some (.path (sendPath args), inParens body ++ (sym ";" ++ rest)) := by
  have hsegment : segment (.ofFuel n) true (sendTokens types body rest) =
      some (.mk "send" (.angle true args false), inParens body ++ (sym ";" ++ rest)) := by
    have hangle (ts : List Token) :
        (isOp "::" ((SegmentArgs.angle true (types.map .type) false).tokens ++ ts) &&
          isOp "<" (((SegmentArgs.angle true (types.map .type) false).tokens ++ ts).drop 2)) =
            true := by
      rw [tokens_angle_types]
      simp only [List.append_assoc]
      rfl
    refine bind_step rfl (else_step rfl (bind_step (identOr_word (by decide) _ _) ?_))
    exact bind_step rfl (then_step (hangle _) (bind_step (hargs _) rfl))
  have hplain : plain (.ofFuel n) true (sendTokens types body rest) =
      some (sendPath args, inParens body ++ (sym ";" ++ rest)) :=
    bind_step rfl (bind_step hsegment (bind_step rfl rfl))
  have hpath : path (.ofFuel n) true (sendTokens types body rest) =
      some (sendPath args, inParens body ++ (sym ";" ++ rest)) :=
    bind_step rfl hplain
  exact bind_step hpath rfl

/-- The call as a whole expression. -/
theorem expr_send
    (hargs : ∀ rest, angleArgs (.ofFuel n)
      ((SegmentArgs.angle true (types.map .type) false).tokens ++ rest) =
        some (.angle true args false, rest))
    (hbody : commaList ((ofFuel n).expr true) body = some ((es, false), [])) (rest : List Token) :
    (ofFuel (n + 1)).expr true (sendTokens types body rest) =
      some (.call (.path (sendPath args)) es false, sym ";" ++ rest) := by
  have hatom : atom (.ofFuel n) true (sendTokens types body rest) =
      some (.path (sendPath args), inParens body ++ (sym ";" ++ rest)) :=
    bind_step rfl (pathExpr_send hargs rest)
  have htrailers : trailers (.ofFuel n) (.path (sendPath args))
      (inParens body ++ (sym ";" ++ rest)) =
        some (.call (.path (sendPath args)) es false, sym ";" ++ rest) :=
    bind_step rfl (bind_step rfl (bind_step (inside_group hbody _) rfl))
  have hoperand : operandRule (.ofFuel n) true (sendTokens types body rest) =
      some (.call (.path (sendPath args)) es false, sym ";" ++ rest) := by
    refine bind_step rfl (bind_step rfl (bind_step rfl (bind_step rfl ?_)))
    exact bind_step hatom (bind_step htrailers rfl)
  exact bind_step hoperand rfl

/-- `return send::<types>(body);` as the only statement of a block. -/
theorem block_send
    (hargs : ∀ rest, angleArgs (.ofFuel n)
      ((SegmentArgs.angle true (types.map .type) false).tokens ++ rest) =
        some (.angle true args false, rest))
    (hbody : commaList ((ofFuel n).expr true) body = some ((es, false), [])) (rest : List Token) :
    block (.ofFuel (n + 3)) (inBraces (word "return" ++ sendTokens types body []) ++ rest) =
      some (.mk [] [.expr (.returnOut (some (.call (.path (sendPath args)) es false))) true],
        rest) := by
  let value : Expr := .returnOut (some (.call (.path (sendPath args)) es false))
  have hexpr := expr_send hargs hbody []
  have hjump : jumpValue (.ofFuel (n + 1)) (sendTokens types body []) =
      some (some (.call (.path (sendPath args)) es false), sym ";") :=
    bind_step rfl (bind_step hexpr rfl)
  have hatom : atom (.ofFuel (n + 1)) true (word "return" ++ sendTokens types body []) =
      some (value, sym ";") :=
    bind_step rfl (bind_step rfl (bind_step hjump rfl))
  have hoperand : operandRule (.ofFuel (n + 1)) true (word "return" ++ sendTokens types body []) =
      some (value, sym ";") := by
    refine bind_step rfl (bind_step rfl (bind_step rfl (bind_step rfl ?_)))
    exact bind_step hatom rfl
  have hearly : earlyRule (.ofFuel (n + 1)) (word "return" ++ sendTokens types body []) =
      some (value, sym ";") :=
    bind_step rfl (bind_step rfl (bind_step hoperand rfl))
  have hexprStmt : exprStmt (.ofFuel (n + 2)) [] (word "return" ++ sendTokens types body []) =
      some (.expr value true, []) :=
    bind_step hearly (bind_step rfl rfl)
  have hstart : macroStart (word "return" ++ sendTokens types body []) = .expr := rfl
  have hitem : startsItem (word "return" ++ sendTokens types body []) = false := rfl
  have hstmt : stmt (.ofFuel (n + 2)) (word "return" ++ sendTokens types body []) =
      some (.expr value true, []) := by
    refine bind_step rfl (bind_step rfl (bind_step rfl ?_))
    rw [hstart]
    exact else_step rfl (else_step hitem hexprStmt)
  have hstmts : stmtsRule (.ofFuel (n + 2)) (word "return" ++ sendTokens types body []) =
      some ([.expr value true], []) := by
    refine bind_step rfl (bind_step (opIf_eq_false rfl) (bind_step rfl ?_))
    exact else_step rfl (bind_step hstmt (bind_step rfl rfl))
  refine inside_group ?_ rest
  refine bind_step rfl ?_
  exact bind_step hstmts rfl

end


/-! ### Signature -/

/-- What a type with arguments is read as. -/
def genericOf (name : String) (args : List GenericArg) : Ty :=
  .path (.plain false [.mk name (.angle false args false)])

/-- A type with arguments is read in front of what belongs to no type. -/
theorem ty_generic {n : Nat} (name : String) (hname : name ∉ reservedWords) {types : List Ty}
    {args : List GenericArg} (h : List.Forall₂ (Ty.ReadsAsArg n) types args)
    {ts : List Token} (hts : EndsType true ts) :
    (ofFuel (n + 1)).ty true ((generic name types).tokens ++ ts) =
      some (genericOf name args, ts) := by
  have hsegment : Segment.ReadsAs (.ofFuel n) (.mk name (.angle false (types.map .type) false))
      (.mk name (.angle false args false)) :=
    Segment.readsAs_angle hname (opensArgs_angle (lifetimesLead_types types) false false)
      (angleArgs_types h false)
  rw [generic, Ty.tokens]
  refine tyRule_of_typePath (List.forall_mem_singleton.mpr hsegment.word) (List.cons_ne_nil _ _)
    (typePath_of_path ?_ hts) hts
  exact path_of_readsAs (.cons hsegment .nil) (List.cons_ne_nil _ _) hts.toEndsPath

/-- `options: Options<T>`. -/
def parameterTokens (t : Ty) : List Token :=
  word "options" ++ (sym ":" ++ (generic "Options" [t]).tokens)

theorem parameters_options {n : Nat} {t : Ty} {a : GenericArg} (h : t.ReadsAsArg n a) :
    parameters (.ofFuel (n + 1)) (parameterTokens t) =
      some (([.ofName "options" (genericOf "Options" [a])], false, none), []) := by
  have hty := ty_generic "Options" (by decide) (.cons h .nil) (endsType_nil true)
  rw [List.append_nil] at hty
  have hdots : opIf "..." (generic "Options" [t]).tokens =
      some (false, (generic "Options" [t]).tokens) := by
    rw [tokens_generic, List.append_assoc]
    rfl
  have htyped : typedParameter (.ofFuel (n + 1)) [] (parameterTokens t) =
      some (.parameter (.ofName "options" (genericOf "Options" [a])), []) := by
    refine bind_step rfl (else_step rfl (bind_step rfl (bind_step rfl ?_)))
    exact bind_step hdots (bind_step hty rfl)
  have hparameter : parameter (.ofFuel (n + 1)) true [] (parameterTokens t) = _ :=
    bind_step rfl htyped
  refine bind_step rfl (bind_step rfl (else_step rfl (bind_step rfl (bind_step rfl ?_))))
  exact bind_step hparameter (bind_step rfl rfl)

/-- The signature of an operation's function. -/
theorem signature_function {n : Nat} {name : String} (hname : name ∉ reservedWords) {types : Types}
    {data response error : GenericArg} (hdata : types.data.ReadsAsArg n data)
    (hresponse : types.response.ReadsAsArg n response) (herror : types.error.ReadsAsArg n error)
    (body rest : List Token) :
    signature (.ofFuel (n + 1)) false
        (signatureTokens name types ++ (inBraces body ++ rest)) =
      some (({
        name := name
        parameters := [.ofName "options" (genericOf "Options" [data])]
        output := some (genericOf "ResponseFuture" [response, error]) }, false),
        inBraces body ++ rest) := by
  let out := (generic "ResponseFuture" [types.response, types.error]).tokens
  have htokens : signatureTokens name types ++ (inBraces body ++ rest) =
      word "fn" ++ (word name ++ (inParens (parameterTokens types.data) ++
        (sym "->" ++ (out ++ (inBraces body ++ rest))))) := by
    simp [signatureTokens, parameterTokens, tokens_generic, separated, out]
  have hoptions := inside_group (d := .paren) (parameters_options hdata)
    (sym "->" ++ (out ++ (inBraces body ++ rest)))
  have hends : EndsType true (inBraces body ++ rest) := ⟨⟨rfl, rfl⟩, rfl, rfl, rfl, rfl⟩
  have hty := ty_generic "ResponseFuture" (by decide) (.cons hresponse (.cons herror .nil)) hends
  have houtput : output (.ofFuel (n + 1)) true (sym "->" ++ (out ++ (inBraces body ++ rest))) =
      some (some (genericOf "ResponseFuture" [response, error]), inBraces body ++ rest) :=
    bind_step rfl (bind_step hty rfl)
  rw [htokens]
  -- no qualifiers before the keyword, and no generics behind the name
  refine bind_step rfl (bind_step rfl (bind_step rfl (bind_step rfl (bind_step rfl
    (bind_step rfl (bind_step (ident_word hname _) (bind_step rfl ?_)))))))
  exact bind_step hoptions (bind_step houtput (bind_step rfl rfl))

/-! ### Functions -/

/-- The types of an operation read back wherever they stand. -/
structure Types.ReadBack (types : Types) : Prop where
  data : types.data.ReadsBack
  response : types.response.ReadsBack
  error : types.error.ReadsBack

/-- How many tokens the types of an operation have together. -/
def Types.count (types : Types) : Nat :=
  Token.countAll types.data.tokens + Token.countAll types.response.tokens +
    Token.countAll types.error.tokens

/-- Attributes of documentation are read up to what begins with no number sign. -/
theorem attributes_docs (n : Nat) (docs : List Literal) :
    ∃ attrs, ∀ ts, isOp "#" ts = false →
      attributes (.ofFuel (n + 1)) (docs.flatMap docTokens ++ ts) = some (attrs, ts) := by
  let doc (line : Literal) : Attribute := ⟨⟨false, ["doc"]⟩, .value (.ofLiteral line)⟩
  have hattrs : List.Forall₂ (ReadsWhile (isOp "#")
      (do op "#"; inside .bracket (attributeBody (.ofFuel (n + 1)))) fun _ => True)
      (docs.map docTokens) (docs.map doc) := by
    rw [List.forall₂_map_left_iff, List.forall₂_map_right_iff, List.forall₂_same]
    intro line _
    have hbody : attributeBody (.ofFuel (n + 1)) (word "doc" ++ sym "=" ++ [.literal line]) =
        some (doc line, []) := rfl
    exact ⟨fun _ => rfl, fun _ => trivial,
      fun {ts} _ => bind_step rfl (inside_group hbody ts)⟩
  exact ⟨_, fun ts hts => manyWhile_flatten (fun _ => True) hts trivial hattrs⟩

theorem bodyTokens_eq (types : Types) (method : Method) (path : Literal) :
    bodyTokens types method path = inBraces (word "return" ++
      sendTokens [types.response, types.error, types.data] (argTokens method path) []) := by
  have htypes := tokens_angle_types true [types.response, types.error, types.data]
  rw [sendTokens, htypes]
  simp [bodyTokens, argTokens, separated]

theorem access_visibility (visibility : Visibility) (name : String) (types : Types)
    (ts : List Token) :
    access (visibilityTokens visibility ++ (signatureTokens name types ++ ts)) =
      some (visibility.access, signatureTokens name types ++ ts) := by
  cases visibility <;> rfl

theorem functionItem_of_signature {g : Grammar} {s : Signature} {b : Block}
    {ts body rest : List Token} (hsignature : signature g false ts = some ((s, false), body))
    (hbody : isOp ";" body = false) (hblock : block g body = some (b, rest)) :
    functionItem g ts = some (some (.function s (some b)), rest) :=
  bind_step hsignature (bind_step (opIf_eq_false hbody) (bind_step hblock rfl))

/-- The function of an operation is read as an item in front of anything. -/
theorem item_function {n : Nat} {name : String} {types : Types} {method : Method}
    (hname : name ∉ reservedWords) (hmethod : method ∈ Method.standard) (htypes : types.ReadBack)
    (hn : 4 * types.count + 16 ≤ n) (visibility : Visibility) (path : Literal) :
    ∃ kind, ∀ start attrs rest, itemRule (.ofFuel (n + 3)) start attrs
      (visibilityTokens visibility ++
        (signatureTokens name types ++ (bodyTokens types method path ++ rest))) =
      some (.mk attrs visibility.access false kind, rest) := by
  obtain ⟨data, hdata⟩ := htypes.data
  obtain ⟨response, hresponse⟩ := htypes.response
  obtain ⟨error, herror⟩ := htypes.error
  rw [Types.count] at hn
  -- the types of the signature are read two levels above those of the call
  have hdata (k : Nat) : types.data.ReadsAsArg (n + k) data := hdata _ (by omega)
  have hresponse (k : Nat) : types.response.ReadsAsArg (n + k) response := hresponse _ (by omega)
  have herror (k : Nat) : types.error.ReadsAsArg (n + k) error := herror _ (by omega)
  obtain ⟨k, rfl⟩ : ∃ k, n = k + 1 := ⟨n - 1, by omega⟩
  obtain ⟨es, hargs⟩ := commaList_args (n := k) hmethod path
  have hsignature := signature_function hname (hdata 2) (hresponse 2) (herror 2)
    (word "return" ++ sendTokens [types.response, types.error, types.data]
      (argTokens method path) [])
  have hblock := block_send (n := k + 1) (fun rest =>
    angleArgs_types
      (.cons (hresponse 0) (.cons (herror 0) (.cons (hdata 0) .nil))) true rest) hargs
  obtain ⟨kind, hkind⟩ : ∃ kind, ∀ rest, functionItem (.ofFuel (k + 1 + 3))
      (signatureTokens name types ++ (bodyTokens types method path ++ rest)) =
        some (some kind, rest) := by
    rw [bodyTokens_eq]
    exact ⟨_, fun rest => functionItem_of_signature (hsignature rest) rfl (hblock rest)⟩
  refine ⟨kind, fun start attrs rest => ?_⟩
  have hitem : itemKind (.ofFuel (k + 1 + 3)) visibility.access
      (signatureTokens name types ++ (bodyTokens types method path ++ rest)) =
        some ((false, some kind), rest) :=
    bind_step rfl (bind_step (hkind rest) rfl)
  exact bind_step (access_visibility visibility name types _) (bind_step hitem rfl)

end ApiClient.Service
