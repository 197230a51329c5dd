import ApiClient.Parameter.Style
import ApiClient.Proofs.Lists

/-!
What arrays and objects become as parameters, told apart from whether they become anything: an array
or object is refused exactly when one of its elements holds others, and else its text is put
together from the texts of its elements.
-/

namespace ApiClient

/-- The text of an element of an array or object. -/
def Json.elementChars (v : Json) : List Char := (v.scalarText?.getD "").toList

namespace Parameter

variable (style : Style) (explode allowReserved : Bool) (name : String)

theorem elementText_eq (v : Json) :
    elementText name v = if v.isScalar then .ok v.elementChars else .error ⟨name⟩ := by
  cases v <;> rfl

theorem mapM_elementText (items : List Json) :
    items.mapM (elementText name) =
      if items.all Json.isScalar then .ok (items.map Json.elementChars) else .error ⟨name⟩ :=
  mapM_eq_ite (elementText_eq name) items

/-- The keys of an object with the texts of their values. -/
def entryChars (entries : Entries Json) : List (List Char × List Char) :=
  entries.map fun (key, v) => (key.toList, v.elementChars)

theorem entryTexts_eq (entries : Entries Json) :
    entryTexts name entries =
      if entries.all (·.2.isScalar) then .ok (entryChars entries) else .error ⟨name⟩ := by
  apply mapM_eq_ite
  rintro ⟨key, v⟩
  show (elementText name v >>= fun text => pure (key.toList, text)) = _
  rw [elementText_eq]
  cases v.isScalar <;> rfl

/-- The text of an array from the texts of its elements. -/
def Style.arrayChars (texts : List (List Char)) : List Char :=
  if explode then
    style.explodedHead ++ List.intercalate style.explodedSeparator
      (texts.map (style.explodedElement allowReserved name.toList))
  else
    style.arrayHead name.toList ++ List.intercalate style.collapsedSeparator
      (texts.map (encode allowReserved))

theorem Style.array_eq (items : List Json) :
    style.array explode allowReserved name items =
      if items.all Json.isScalar then
        .ok (style.arrayChars explode allowReserved name (items.map Json.elementChars))
      else .error ⟨name⟩ := by
  rw [Style.array, mapM_elementText, Style.arrayChars]
  cases items.all Json.isScalar <;> cases explode <;> rfl

/-- The text of an object from its keys and the texts of their values. -/
def Style.objectChars (entries : List (List Char × List Char)) : List Char :=
  if explode || style = .deepObject then
    style.explodedHead ++ List.intercalate style.explodedSeparator
      (entries.map fun (key, text) => pair allowReserved (style.entryName name.toList key) text)
  else
    style.objectHead name.toList ++ List.intercalate [',']
      (entries.flatMap fun (key, text) => [key, encode allowReserved text])

theorem Style.object_eq (entries : Entries Json) :
    style.object explode allowReserved name entries =
      if entries.all (·.2.isScalar) then
        .ok (style.objectChars explode allowReserved name (entryChars entries))
      else .error ⟨name⟩ := by
  rw [Style.object, entryTexts_eq, Style.objectChars]
  cases entries.all (·.2.isScalar) <;> cases (explode || decide (style = .deepObject)) <;> rfl

end Parameter

end ApiClient
