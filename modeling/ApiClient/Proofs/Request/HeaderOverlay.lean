import ApiClient.Proofs.Except
import ApiClient.Proofs.Http.HeaderLayers
import ApiClient.Proofs.Lists
import ApiClient.Proofs.Text.Utf8
import ApiClient.Request.HeaderInput

/-!
Header maps under the inputs that are laid over them. An input decides the values of its own name
and of no other, so of all inputs for a name the last one counts, in whatever case they spell it. A
name that no input is for keeps its values, and giving it just these once more changes nothing.
-/

namespace ApiClient

namespace HeaderName

/-- Texts that differ in the case of ASCII letters at most. -/
def EqIgnoringCase (a b : String) : Prop :=
  a.toList.map Char.toLower = b.toList.map Char.toLower

instance (a b : String) : Decidable (EqIgnoringCase a b) :=
  inferInstanceAs (Decidable (a.toList.map Char.toLower = b.toList.map Char.toLower))

theorem text_of_parse? {text : String} {name : HeaderName} (h : parse? text = some name) :
    name.text.toList = text.toList.map Char.toLower := by
  rw [parse?] at h
  split at h
  case isTrue =>
    obtain rfl := Option.some.inj h
    exact String.toList_ofList
  case isFalse => cases h

/-- Of texts that are names, those spell the same name that differ in case only. -/
theorem parse?_eq_some_iff {text other : String} {name : HeaderName}
    (htext : (parse? text).isSome) (hother : parse? other = some name) :
    parse? text = some name ↔ EqIgnoringCase text other := by
  obtain ⟨key, hkey⟩ := Option.isSome_iff_exists.mp htext
  rw [hkey, Option.some.injEq, HeaderName.mk.injEq, EqIgnoringCase, ← text_of_parse? hkey,
    ← text_of_parse? hother, String.toList_inj]

end HeaderName

namespace HeaderValue

theorem toNat_lt_of_readable {b : UInt8} (h : readable b = true) : b.toNat < 0x80 := by
  simp only [readable, Bool.or_eq_true, Bool.and_eq_true, decide_eq_true_eq,
    UInt8.lt_iff_toNat_lt, UInt8.le_iff_toNat_le, ← UInt8.toNat_inj, UInt8.reduceToNat] at h
  omega

theorem allowed_of_readable {b : UInt8} (h : readable b = true) : allowed b = true := by
  simp only [readable, allowed, Bool.or_eq_true, Bool.and_eq_true, decide_eq_true_eq,
    UInt8.lt_iff_toNat_lt, UInt8.le_iff_toNat_le, ne_eq, ← UInt8.toNat_inj,
    UInt8.reduceToNat] at h ⊢
  omega

/-- Bytes that are read as text are the bytes of that text. -/
theorem utf8_of_readable {value : HeaderValue} (h : value.all readable = true) :
    utf8 (String.ofList (value.map fun b => Char.ofNat b.toNat)) = value := by
  rw [utf8, String.toList_ofList]
  induction value with
  | nil => rfl
  | cons b value ih =>
      rw [List.all_cons, Bool.and_eq_true] at h
      obtain ⟨hb, hvalue⟩ := h
      rw [List.map_cons, Utf8.encode, List.flatMap_cons,
        Utf8.encodeChar_ofNat (toNat_lt_of_readable hb)]
      exact congrArg _ (ih hvalue)

/-- The text that a value is read as is a value again, the same one. -/
theorem ofText?_of_toText? {value : HeaderValue} {text : String}
    (h : value.toText? = some text) : ofText? text = some value := by
  rw [toText?] at h
  split at h
  case isFalse => cases h
  case isTrue hread =>
    obtain rfl := Option.some.inj h
    have hallowed : value.all allowed = true :=
      List.all_eq_true.mpr fun b hb => allowed_of_readable (List.all_eq_true.mp hread b hb)
    rw [ofText?, utf8_of_readable hread, ofBytes?, if_pos hallowed]

end HeaderValue

namespace HeaderInput

/-- The texts of values, given as a list, are these values. -/
theorem values_list_of_toText? {vs : List HeaderValue} {texts : List String}
    (h : vs.mapM HeaderValue.toText? = some texts) (name : String) :
    (HeaderInput.list texts).values name = .ok vs := by
  induction vs generalizing texts with
  | nil =>
      cases h
      rfl
  | cons v vs ih =>
      simp only [List.mapM_cons, Option.bind_eq_bind, Option.bind_eq_some_iff] at h
      obtain ⟨text, htext, rest, hrest, h⟩ := h
      cases h
      have htail := ih hrest
      rw [values, texts] at htail ⊢
      rw [List.mapM_cons, HeaderValue.ofText?_of_toText? htext, htail]
      rfl

theorem values_eq_ite (name : String) (input : HeaderInput) :
    input.values name =
      if input.texts.all fun text => (HeaderValue.ofText? text).isSome then
        .ok (input.texts.map utf8)
      else .error ⟨name, .invalidValue⟩ := by
  apply mapM_eq_ite
  intro text
  rw [HeaderValue.ofText?, HeaderValue.ofBytes?]
  cases (utf8 text).all HeaderValue.allowed <;> rfl

theorem apply_of_parse? {text : String} {key : HeaderName} (h : HeaderName.parse? text = some key)
    (headers : Headers) (input : HeaderInput) :
    input.apply headers text =
      (input.values text).map fun vs => (headers.remove key).appendAll key vs := by
  rw [apply, h]
  cases input.values text <;> rfl

/-- An input gives its own name the bytes of its texts, and leaves all other names. -/
theorem values_of_apply_eq_ok {headers merged : Headers} {text : String} {input : HeaderInput}
    (h : input.apply headers text = .ok merged) (name : HeaderName) :
    merged.values name =
      if HeaderName.parse? text = some name then input.texts.map utf8 else headers.values name := by
  cases hkey : HeaderName.parse? text with
  | none =>
      rw [apply, hkey] at h
      cases h
  | some key =>
      rw [apply_of_parse? hkey, values_eq_ite] at h
      obtain ⟨vs, hvs, rfl⟩ := map_eq_ok_iff.mp h
      split at hvs
      case isTrue =>
        cases hvs
        simp only [Headers.values_replace, Option.some.injEq]
      case isFalse => cases hvs

/-! ### Faults -/

/-- What is wrong with a header that is to get this value: its name, or one of its texts. -/
def fault? (name : String) (input : HeaderInput) : Option HeaderFault :=
  if (HeaderName.parse? name).isNone then some .invalidName
  else if input.texts.all fun text => (HeaderValue.ofText? text).isSome then none
  else some .invalidValue

/-- A header that can be sent: its name is one, and its texts are values. -/
def IsSendable (name : String) (input : HeaderInput) : Prop :=
  (HeaderName.parse? name).isSome ∧ ∀ text ∈ input.texts, (HeaderValue.ofText? text).isSome

instance (name : String) (input : HeaderInput) : Decidable (input.IsSendable name) :=
  inferInstanceAs (Decidable (_ ∧ _))

theorem fault?_eq_ite (name : String) (input : HeaderInput) :
    input.fault? name =
      if input.IsSendable name then none
      else some (if (HeaderName.parse? name).isSome then .invalidValue else .invalidName) := by
  cases hname : HeaderName.parse? name with
  | none => simp [fault?, IsSendable, hname]
  | some key => simp [fault?, IsSendable, hname]

/-- The error of a header, with its name as it is written. -/
def error? (name : String) (input : HeaderInput) : Option HeaderError :=
  (input.fault? name).map fun fault => ⟨name, fault⟩

theorem error?_eq_none_iff {name : String} {input : HeaderInput} :
    input.error? name = none ↔ input.IsSendable name := by
  rw [error?, Option.map_eq_none_iff, fault?_eq_ite]
  by_cases h : input.IsSendable name <;> simp [h]

theorem error?_eq_some_iff {name : String} {input : HeaderInput} {e : HeaderError} :
    input.error? name = some e ↔
      e.name = name ∧ ¬input.IsSendable name ∧
        e.fault = if (HeaderName.parse? name).isSome then .invalidValue else .invalidName := by
  obtain ⟨written, fault⟩ := e
  rw [error?, fault?_eq_ite]
  by_cases h : input.IsSendable name
  · simp [h]
  · rw [if_neg h, Option.map_some, Option.some.injEq, HeaderError.mk.injEq]
    constructor
    · rintro ⟨rfl, rfl⟩
      exact ⟨rfl, h, rfl⟩
    · rintro ⟨rfl, -, hfault⟩
      exact ⟨rfl, hfault.symm⟩

end HeaderInput

theorem fault?_apply (headers : Headers) (name : String) (input : HeaderInput) :
    fault? (input.apply headers name) = (input.fault? name).map (⟨name, ·⟩) := by
  rw [HeaderInput.apply, HeaderInput.fault?]
  cases HeaderName.parse? name with
  | none => rfl
  | some key =>
      simp only [Option.isNone_some, HeaderInput.values_eq_ite]
      split <;> rfl

/-- Headers fail with the first one that cannot be sent. -/
theorem fault?_override (base : Headers) (inputs : Entries HeaderInput) :
    fault? (base.override inputs) =
      inputs.findSome? fun (name, input) => (input.fault? name).map (⟨name, ·⟩) :=
  fault?_foldlM (fun headers entry => fault?_apply headers entry.1 entry.2) inputs base

namespace Headers

/-- Gives the name the values that it has, which is no change. -/
theorem appendAll_values_remove (name : HeaderName) (headers : Headers) :
    (headers.remove name).appendAll name (headers.values name) = headers := by
  apply ext_values
  intro other
  rw [values_replace]
  split
  case isTrue h => rw [h]
  case isFalse => rfl

/-- Of the inputs for a name the last one decides its values. Without one it keeps them. -/
theorem values_of_override_eq_ok {base merged : Headers} {inputs : Entries HeaderInput}
    (h : base.override inputs = .ok merged) (name : HeaderName) :
    merged.values name =
      ((inputs.filter fun entry => HeaderName.parse? entry.1 = some name).getLast?.map fun entry =>
        entry.2.texts.map utf8).getD (base.values name) := by
  induction inputs generalizing base with
  | nil =>
      cases h
      rfl
  | cons entry inputs ih =>
      rw [override, List.foldlM_cons] at h
      obtain ⟨headers, happly, h⟩ := bind_eq_ok_iff.mp h
      have hhead := HeaderInput.values_of_apply_eq_ok happly name
      rw [ih h, hhead, List.filter_cons]
      by_cases hentry : HeaderName.parse? entry.1 = some name
      · simp only [hentry, if_true, decide_true, List.getLast?_cons]
        cases (inputs.filter fun entry => HeaderName.parse? entry.1 = some name).getLast? <;> rfl
      · simp only [hentry, if_false, decide_false, Bool.false_eq_true]

/-- The own values of a name that no input is for may be given to it explicitly. -/
theorem override_concat_own_values {base : Headers} {inputs : Entries HeaderInput} {text : String}
    {name : HeaderName} {texts : List String} (htext : HeaderName.parse? text = some name)
    (hname : ∀ entry ∈ inputs, HeaderName.parse? entry.1 ≠ some name)
    (hvalues : (base.values name).mapM HeaderValue.toText? = some texts) :
    base.override (inputs ++ [(text, .list texts)]) = base.override inputs := by
  have hconcat : base.override (inputs ++ [(text, .list texts)]) =
      base.override inputs >>= fun merged => (HeaderInput.list texts).apply merged text := by
    rw [override, List.foldlM_append]
    simp only [List.foldlM_cons, List.foldlM_nil, bind_pure]
    rfl
  rw [hconcat]
  cases hbase : base.override inputs with
  | error e => rfl
  | ok merged =>
      have hnone : (inputs.filter fun entry => HeaderName.parse? entry.1 = some name) = [] := by
        rw [List.filter_eq_nil_iff]
        simpa using hname
      have hkeep : merged.values name = base.values name := by
        rw [values_of_override_eq_ok hbase, hnone]
        rfl
      rw [← hkeep] at hvalues
      have happly : (HeaderInput.list texts).apply merged text =
          .ok ((merged.remove name).appendAll name (merged.values name)) := by
        rw [HeaderInput.apply_of_parse? htext, HeaderInput.values_list_of_toText? hvalues]
        rfl
      rw [appendAll_values_remove] at happly
      exact happly

/-! ### Refusals and decisions -/

theorem exists_override_eq_ok_iff {base : Headers} {inputs : Entries HeaderInput} :
    (∃ merged, base.override inputs = .ok merged) ↔
      ∀ entry ∈ inputs, entry.2.IsSendable entry.1 := by
  rw [← fault?_eq_none_iff, fault?_override, List.findSome?_eq_none_iff]
  exact forall₂_congr fun entry _ => HeaderInput.error?_eq_none_iff

/-- The error is that of the first input that cannot be sent. -/
theorem override_eq_error_iff {base : Headers} {inputs : Entries HeaderInput} {e : HeaderError} :
    base.override inputs = .error e ↔
      ∃ before input rest, inputs = before ++ (e.name, input) :: rest ∧
        (∀ entry ∈ before, entry.2.IsSendable entry.1) ∧ ¬input.IsSendable e.name ∧
        e.fault = if (HeaderName.parse? e.name).isSome then .invalidValue else .invalidName := by
  rw [← fault?_eq_some_iff, fault?_override, List.findSome?_eq_some_iff]
  constructor
  · rintro ⟨before, ⟨name, input⟩, rest, rfl, herror, hbefore⟩
    obtain ⟨rfl, hinput, hfault⟩ := HeaderInput.error?_eq_some_iff.mp herror
    exact ⟨before, input, rest, rfl,
      fun entry hentry => HeaderInput.error?_eq_none_iff.mp (hbefore entry hentry), hinput, hfault⟩
  · rintro ⟨before, input, rest, rfl, hbefore, hinput, hfault⟩
    exact ⟨before, (e.name, input), rest, rfl,
      HeaderInput.error?_eq_some_iff.mpr ⟨rfl, hinput, hfault⟩,
      fun entry hentry => HeaderInput.error?_eq_none_iff.mpr (hbefore entry hentry)⟩

/-- Inputs are refused when one of them cannot be sent, with the first such one. Else a name has the
values of the last input for it, in whatever case that is spelled, and without one those it had. -/
theorem override_refuses_or_decides (base : Headers) (inputs : Entries HeaderInput) :
    (∀ e, base.override inputs = .error e ↔
      ∃ before input rest, inputs = before ++ (e.name, input) :: rest ∧
        (∀ entry ∈ before, entry.2.IsSendable entry.1) ∧ ¬input.IsSendable e.name ∧
        e.fault = if (HeaderName.parse? e.name).isSome then .invalidValue else .invalidName) ∧
    ((∃ merged, base.override inputs = .ok merged) ↔
      ∀ entry ∈ inputs, entry.2.IsSendable entry.1) ∧
    ∀ merged, base.override inputs = .ok merged →
      ∀ text name, HeaderName.parse? text = some name →
        merged.values name =
          match (inputs.filter fun entry =>
            HeaderName.EqIgnoringCase entry.1 text).getLast? with
          | none => base.values name
          | some (_, .remove) => []
          | some (_, .value v) => [utf8 v]
          | some (_, .json v) => [utf8 v.text]
          | some (_, .list vs) => vs.map utf8 := by
  refine ⟨fun e => override_eq_error_iff, exists_override_eq_ok_iff, ?_⟩
  intro merged hmerged text name htext
  have hsendable := exists_override_eq_ok_iff.mp ⟨merged, hmerged⟩
  -- every input has a name by now, so the inputs for this one are known by their spelling
  have hfor : (inputs.filter fun entry => HeaderName.parse? entry.1 = some name) =
      inputs.filter fun entry => HeaderName.EqIgnoringCase entry.1 text := by
    apply List.filter_congr
    intro entry hentry
    rw [decide_eq_decide]
    exact HeaderName.parse?_eq_some_iff (hsendable entry hentry).1 htext
  rw [values_of_override_eq_ok hmerged, hfor]
  cases (inputs.filter fun entry => HeaderName.EqIgnoringCase entry.1 text).getLast? with
  | none => rfl
  | some entry =>
      obtain ⟨key, input⟩ := entry
      cases input <;> rfl

/-- A header with two values below, and two inputs that spell its name differently. -/
theorem override_refuses_or_decides_respelled :
    let base := ofList [(⟨"accept"⟩, utf8 "text/plain"), (⟨"accept"⟩, utf8 "*/*")]
    let inputs : Entries HeaderInput :=
      [("Accept", .value "text/html"), ("X-Old", .remove), ("ACCEPT", .list ["a/b", "c/d"])]
    ∃ merged, base.override inputs = .ok merged ∧
      HeaderName.parse? "accEPT" = some ⟨"accept"⟩ ∧
      merged.values ⟨"accept"⟩ = [utf8 "a/b", utf8 "c/d"] := by
  intro base inputs
  obtain ⟨-, hsucceeds, hdecides⟩ := override_refuses_or_decides base inputs
  obtain ⟨merged, hmerged⟩ := hsucceeds.mpr (by decide)
  have hname : HeaderName.parse? "accEPT" = some ⟨"accept"⟩ := by decide
  exact ⟨merged, hmerged, hname, hdecides merged hmerged "accEPT" ⟨"accept"⟩ hname⟩

end Headers

end ApiClient
