import ApiClient.Client.Session
import Mathlib.Data.List.Induction
import Mathlib.Data.List.Nodup

/-!
Requests of operations. What a setter is for, it sets to what it was last called with, and headers
are what replacing and inserting them in order leaves. The data of an operation takes the place of
what it declares; of all else that it has, only the parameters count.
-/

namespace ApiClient

/-! ### Maps -/

namespace Entries

variable {α : Type}

/-- Names with values that are a map: every name is there once. -/
def IsMap (entries : Entries α) : Prop := (entries.map (·.1)).Nodup

instance (entries : Entries α) : Decidable entries.IsMap :=
  inferInstanceAs (Decidable (entries.map (·.1)).Nodup)

/-- A name that is not there yet comes last. -/
theorem insert_of_not_mem {name : String} {entries : Entries α}
    (h : name ∉ entries.map (·.1)) (value : α) :
    insert name value entries = entries ++ [(name, value)] := by
  induction entries with
  | nil => rfl
  | cons entry rest ih =>
      rw [List.map_cons, List.mem_cons, not_or] at h
      have hne : (entry.1 == name) = false := by simpa using Ne.symm h.1
      rw [insert, hne, ih h.2]
      rfl

theorem insertAll_append {before pairs : Entries α} (h : IsMap (before ++ pairs)) :
    insertAll before pairs = before ++ pairs := by
  induction pairs generalizing before with
  | nil => simp [insertAll]
  | cons pair pairs ih =>
      have hnew : pair.1 ∉ before.map (·.1) := by
        intro hmem
        rw [IsMap, List.map_append, List.map_cons] at h
        exact (List.nodup_middle.mp h).notMem (List.mem_append_left _ hmem)
      have hrest : IsMap ((before ++ [pair]) ++ pairs) := by
        rwa [List.append_assoc]
      calc insertAll before (pair :: pairs)
          = insertAll (insert pair.1 pair.2 before) pairs := rfl
        _ = insertAll (before ++ [pair]) pairs := by rw [insert_of_not_mem hnew]
        _ = (before ++ [pair]) ++ pairs := ih hrest
        _ = before ++ pair :: pairs := by rw [List.append_assoc, List.singleton_append]

/-- Inserting a map where there is nothing gives the map. -/
theorem insertAll_nil {pairs : Entries α} (h : pairs.IsMap) : insertAll [] pairs = pairs :=
  insertAll_append h

end Entries

/-! ### Setters -/

namespace Setter

variable {κ : Type}

/-! What a setter is called with, if it is the one for it. -/

def client? : Setter κ → Option κ
  | .client c => some c
  | _ => none

def baseUrl? : Setter κ → Option String
  | .baseUrl url => some url
  | _ => none

def parseMode? : Setter κ → Option ParseMode
  | .parseMode mode => some mode
  | _ => none

def bodySerializer? : Setter κ → Option BodySerializer
  | .bodySerializer serializer => some serializer
  | _ => none

def querySerializer? : Setter κ → Option QuerySerializer
  | .querySerializer serializer => some serializer
  | _ => none

def transport? : Setter κ → Option Transport
  | .transport t => some t
  | _ => none

def body? : Setter κ → Option RequestBody
  | .body b => some b
  | _ => none

def transformer? : Setter κ → Option Transformer
  | .transformer t => some t
  | _ => none

/-- What the last of the setters for something was called with. -/
def last? {β : Type} (get? : Setter κ → Option β) (setters : List (Setter κ)) : Option β :=
  (setters.filterMap get?).getLast?

/-- What a setter makes of the headers. -/
def putHeaders (headers : Entries HeaderInput) : Setter κ → Entries HeaderInput
  | .header name input => headers.insert name input
  | .headers inputs => inputs
  | _ => headers

/-- The headers that setters leave, called in order. -/
def replay (setters : List (Setter κ)) : Entries HeaderInput := setters.foldl putHeaders []

theorem last?_concat {β : Type} (get? : Setter κ → Option β) (setters : List (Setter κ))
    (setter : Setter κ) :
    last? get? (setters ++ [setter]) = (get? setter).or (last? get? setters) := by
  rw [last?, last?, List.filterMap_append]
  cases h : get? setter <;> simp [h]

theorem replay_concat (setters : List (Setter κ)) (setter : Setter κ) :
    replay (setters ++ [setter]) = putHeaders (replay setters) setter := by
  rw [replay, replay, List.foldl_append, List.foldl_cons, List.foldl_nil]

end Setter

section

variable {κ : Type}

open Setter

/-- The options of a request: the parameters of the data, what it declares, and of all else what was
set last. Of what the data does not declare it brings nothing along, and a transformer stays only
where it declares nothing. -/
def RequestOptions.ofData (shape : Shape) (parts : DataParts) (setters : List (Setter κ))
    (url : String) : RequestOptions where
  url
  path := parts.path
  query := parts.query
  body := if shape.declaresBody then parts.body else last? body? setters
  headers := if shape.declaresHeaders then parts.headers else replay setters
  transformer := if shape = .plain then last? transformer? setters else none
  method := none
  baseUrl := last? baseUrl? setters
  parseMode := last? parseMode? setters
  bodySerializer := last? bodySerializer? setters
  querySerializer := last? querySerializer? setters
  transport := last? transport? setters

end

namespace OperationOptions

variable {κ : Type}

open Setter

/-- What setters are called with in the end, each part on its own. -/
def ofSetters (setters : List (Setter κ)) : OperationOptions κ where
  client := last? client? setters
  base := {
    baseUrl := last? baseUrl? setters
    headers := replay setters
    body := last? body? setters
    bodySerializer := last? bodySerializer? setters
    querySerializer := last? querySerializer? setters
    transformer := last? transformer? setters
    transport := last? transport? setters
    parseMode := last? parseMode? setters }

/-- A further setter changes the part that it is for, and no other. -/
theorem ofSetters_concat (setters : List (Setter κ)) (setter : Setter κ) :
    ofSetters (setters ++ [setter]) = (ofSetters setters).set setter := by
  simp only [ofSetters, last?_concat, replay_concat]
  cases setter <;> rfl

/-- Setters that are called one after the other leave each part as it was last set. -/
theorem setAll_eq_ofSetters (setters : List (Setter κ)) :
    setAll {} setters = ofSetters setters := by
  induction setters using List.reverseRecOn with
  | nil => rfl
  | append_singleton setters setter ih =>
      rw [ofSetters_concat, ← ih, setAll, setAll, List.foldl_append, List.foldl_cons,
        List.foldl_nil]

theorem toRequestOptions_ofSetters {shape : Shape} {parts : DataParts}
    (hpath : parts.path.IsMap) (hquery : parts.query.IsMap) (setters : List (Setter κ))
    (url : String) :
    (ofSetters setters).toRequestOptions shape parts url = .ofData shape parts setters url := by
  cases shape <;>
    simp [toRequestOptions, ofSetters, RequestOptions.ofData, Shape.declaresBody,
      Shape.declaresHeaders, Entries.insertAll_nil hpath, Entries.insertAll_nil hquery]

end OperationOptions

namespace Session

variable {α ε : Type}

open Setter

/-- The data of an operation, what it declares and what was set determine the request. Parameters
are those of the data. A body and headers that the data declares are those of the data; where it
declares none they are what was set, and what the data has is of no account. A transformer stays
only where it declares neither. All else is as it was last set, and no method is. The request goes
through the client that was set, or the default one. Data that cannot be taken apart sends
nothing. -/
theorem send_determined_by_data (data : Decoder α) (error : Decoder ε) (s : Session)
    (method : Method) (url : String) (shape : Shape) (setters : List (Setter ClientId))
    (defaultTransport : Option Transport) :
    let operation := OperationOptions.setAll {} setters
    (∀ parts : DataParts, parts.path.IsMap → parts.query.IsMap →
      let options := operation.toRequestOptions shape parts url
      options = .ofData shape parts setters url ∧
      (send data error method url shape (.ok parts) operation defaultTransport).run s =
        (request data error ((last? client? setters).getD defaultClient)
          { options with method := some method } defaultTransport).run s) ∧
    ∀ message,
      (send data error method url shape (.error message) operation defaultTransport).run s =
      ((.error (.data message), []), s) := by
  intro operation
  have hoperation : operation = .ofSetters setters := OperationOptions.setAll_eq_ofSetters setters
  refine ⟨fun parts hpath hquery => ⟨?_, ?_⟩, fun message => rfl⟩
  · rw [hoperation]
    exact OperationOptions.toRequestOptions_ofSetters hpath hquery setters url
  · have hclient : operation.client = last? client? setters := by
      rw [hoperation]
      rfl
    rw [← hclient]
    rfl

/-- Data with a body, which it does not declare, and with headers, which it does. -/
def tracedPet : DataParts where
  path := [("id", .number (.int 9)), ("part", .string "tail")]
  query := [("limit", .null)]
  body := some (.text "ignored")
  headers := [("X-Trace", .value "abc")]

/-- Its request has the body that was set last, the headers of the data, and goes through the client
that was set. -/
theorem send_determined_by_data_tracedPet :
    let operation : OperationOptions ClientId :=
      .setAll {} [.body (.text "first"), .client 1, .body (.raw [7]), .baseUrl "https://pets.test"]
    let options : RequestOptions := {
      url := "/pets/\x7bid\x7d"
      path := tracedPet.path
      query := tracedPet.query
      body := some (.raw [7])
      headers := [("X-Trace", .value "abc")]
      baseUrl := some "https://pets.test" }
    let s : Session := { clients := [{}, { own := some {} }] }
    tracedPet.path.IsMap ∧ tracedPet.query.IsMap ∧
      operation.toRequestOptions .withHeaders tracedPet options.url = options ∧
      (send Schema.value.decode Schema.value.decode .put options.url .withHeaders
        (.ok tracedPet) operation).run s =
        (request Schema.value.decode Schema.value.decode 1
          { options with method := some .put }).run s := by
  intro operation options s
  have hpath : tracedPet.path.IsMap := by decide
  have hquery : tracedPet.query.IsMap := by decide
  obtain ⟨hoptions, hsend⟩ := (send_determined_by_data Schema.value.decode Schema.value.decode s
    .put options.url .withHeaders [.body (.text "first"), .client 1, .body (.raw [7]),
      .baseUrl "https://pets.test"] none).1 tracedPet hpath hquery
  have heq : operation.toRequestOptions .withHeaders tracedPet options.url = options :=
    hoptions.trans rfl
  refine ⟨hpath, hquery, heq, hsend.trans ?_⟩
  exact congrArg (fun o : RequestOptions => (request Schema.value.decode Schema.value.decode 1
    { o with method := some .put }).run s) heq

end Session

end ApiClient
