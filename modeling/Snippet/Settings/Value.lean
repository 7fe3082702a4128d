namespace Snippet.Settings

/-- A value in a settings text. No setting is a float or a date, so that these are kept only as
such. -/
inductive Value where
  | string (value : String)
  | integer (value : Int)
  | boolean (value : Bool)
  | float
  | date
  | array (elements : List Value)
  | table (entries : List (String × Value))
deriving Repr, Inhabited

end Snippet.Settings
