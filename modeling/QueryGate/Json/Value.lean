import QueryGate.Json.Binary64

/-!
JSON values.

Integers of the signed or unsigned 64-bit range are kept exactly; every other number
is held in the binary64 format. The fields of an object have distinct keys and keep
the order in which the keys first appeared.
-/

namespace QueryGate

/-- A JSON value. -/
inductive Json where
  | null
  | bool (value : Bool)
  | int (value : Int)
  | float (value : Json.Binary64)
  | text (value : String)
  | list (items : List Json)
  | object (fields : List (String × Json))
deriving Repr, Inhabited

namespace Json

/-- Fields with distinct keys. -/
abbrev Fields : Type := List (String × Json)

namespace Fields

/-- The value of a key. -/
def get? (fields : Fields) (key : String) : Option Json :=
  fields.lookup key

def contains (fields : Fields) (key : String) : Bool :=
  (fields.get? key).isSome

/-- Gives a key a value: in place when the key is present, at the end when it is
not. -/
def insert : Fields → String → Json → Fields
  | [], key, value => [(key, value)]
  | (k, v) :: rest, key, value =>
      if k = key then (key, value) :: rest else (k, v) :: insert rest key value

def ofList (entries : List (String × Json)) : Fields :=
  entries.foldl (fun fields entry => fields.insert entry.1 entry.2) []

theorem get?_insert_self (fields : Fields) (key : String) (value : Json) :
    (fields.insert key value).get? key = some value := by
  induction fields with
  | nil => simp [insert, get?]
  | cons entry rest ih =>
      obtain ⟨k, v⟩ := entry
      by_cases h : k = key
      · simp [insert, get?, h]
      · have hne : (key == k) = false := by simpa using fun e : key = k => h e.symm
        simpa [insert, get?, h, List.lookup_cons, hne] using ih

theorem get?_insert_of_ne (fields : Fields) {key other : String} (value : Json)
    (hne : other ≠ key) :
    (fields.insert key value).get? other = fields.get? other := by
  have hbeq : (other == key) = false := by simpa using hne
  induction fields with
  | nil => simpa [insert, get?] using hne
  | cons entry rest ih =>
      obtain ⟨k, v⟩ := entry
      by_cases h : k = key
      · subst h
        simp [insert, get?, List.lookup_cons, hbeq]
      · simp only [insert, get?, h, if_false, List.lookup_cons] at ih ⊢
        rw [ih]

/-- To give a key the value that it has changes nothing. -/
theorem insert_of_get? {fields : Fields} {key : String} {value : Json}
    (h : fields.get? key = some value) : fields.insert key value = fields := by
  induction fields with
  | nil => cases h
  | cons entry rest ih =>
      obtain ⟨k, v⟩ := entry
      by_cases hk : k = key
      · have hv : v = value := by simpa [get?, hk] using h
        rw [insert, if_pos hk, hk, hv]
      · have hne : (key == k) = false := beq_eq_false_iff_ne.mpr (Ne.symm hk)
        have hrest : get? rest key = some value := by
          simpa [get?, List.lookup_cons, hne] using h
        rw [insert, if_neg hk, ih hrest]

end Fields

end Json

end QueryGate
