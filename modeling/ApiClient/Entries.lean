/-!
Named values in the order in which their names first came.
-/

namespace ApiClient

/-- Names with values, in order. -/
abbrev Entries (α : Type) := List (String × α)

namespace Entries

variable {α : Type}

def find? (name : String) : Entries α → Option α
  | [] => none
  | (n, v) :: rest => if n == name then some v else find? name rest

/-- Gives a name a value: in place where the name is there already, else at the end. -/
def insert (name : String) (value : α) : Entries α → Entries α
  | [] => [(name, value)]
  | (n, v) :: rest => if n == name then (n, value) :: rest else (n, v) :: insert name value rest

def insertAll (entries : Entries α) (pairs : List (String × α)) : Entries α :=
  pairs.foldl (fun acc (name, value) => insert name value acc) entries

def ofList (pairs : List (String × α)) : Entries α := insertAll [] pairs

@[simp] theorem find?_nil (name : String) : find? name ([] : Entries α) = none := rfl

@[simp] theorem find?_insert_self (name : String) (value : α) (entries : Entries α) :
    find? name (insert name value entries) = some value := by
  fun_induction insert name value entries <;> simp_all [find?]

theorem find?_insert_of_ne {name other : String} (h : other ≠ name) (value : α)
    (entries : Entries α) : find? other (insert name value entries) = find? other entries := by
  fun_induction insert name value entries <;> grind [find?]

end Entries

end ApiClient
