/-!
The values of a TOML document.

Of numbers with a fraction and of points in time only the spelling is kept.
-/

namespace QueryGate.Toml

/-- A value of a TOML document. -/
inductive Value where
  | text (value : String)
  | integer (value : Int)
  | float (spelling : String)
  | boolean (value : Bool)
  | dateTime (spelling : String)
  | list (items : List Value)
  | table (entries : List (String × Value))
deriving Repr, Inhabited

end QueryGate.Toml
