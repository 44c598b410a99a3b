import BackendCore.Python.Text

/-!
# JSON values as Python objects

What `json.loads` returns: `None`, `bool`, `int`, `float`, `str`, `list` and
`dict` with string keys.  A float is kept as its `repr`, the only part of it
that the code looks at besides whether it is zero.
-/

set_option autoImplicit false

namespace BackendCore.Python

inductive Json where
  | null
  | bool (value : Bool)
  | int (value : Int)
  | float (shown : String)
  | str (value : String)
  | list (items : List Json)
  | dict (fields : List (String × Json))

namespace Json

/-- `bool(value)`. -/
def truthy : Json → Bool
  | .null => false
  | .bool value => value
  | .int value => value ≠ 0
  | .float shown => shown ≠ "0.0" && shown ≠ "-0.0"
  | .str value => value ≠ ""
  | .list items => !items.isEmpty
  | .dict fields => !fields.isEmpty

/-- `fields.get(name)`, with `None` for a missing key. -/
def lookup (fields : List (String × Json)) (name : String) : Option Json :=
  (fields.find? fun field => field.1 = name).map Prod.snd

def getD (fields : List (String × Json)) (name : String) : Json :=
  (lookup fields name).getD .null

/-! ## `repr` and `str` -/

section Show

variable (isPrintable : Char → Bool)

def singleQuote : Char := Char.ofNat 39

def doubleQuote : Char := Char.ofNat 34

def backslash : Char := Char.ofNat 92

def escapeChar (quote c : Char) : List Char :=
  if c = quote ∨ c = backslash then [backslash, c]
  else if c.toNat = 10 then [backslash, 'n']
  else if c.toNat = 13 then [backslash, 'r']
  else if c.toNat = 9 then [backslash, 't']
  else if isPrintable c then [c]
  else if c.toNat < 0x100 then backslash :: 'x' :: hexText 2 c.toNat
  else if c.toNat < 0x10000 then backslash :: 'u' :: hexText 4 c.toNat
  else backslash :: 'U' :: hexText 8 c.toNat

/-- `repr` of a string: single quotes unless it has one and no double quote. -/
def reprStr (value : String) : String :=
  let chars := value.toList
  let quote :=
    if chars.contains singleQuote && !chars.contains doubleQuote then doubleQuote else singleQuote
  String.ofList (quote :: (chars.flatMap (escapeChar isPrintable quote) ++ [quote]))

mutual

def reprValue : Json → String
  | .null => "None"
  | .bool true => "True"
  | .bool false => "False"
  | .int value => toString value
  | .float shown => shown
  | .str value => reprStr isPrintable value
  | .list items => "[" ++ ", ".intercalate (reprItems items) ++ "]"
  | .dict fields => "\x7b" ++ ", ".intercalate (reprFields fields) ++ "\x7d"

def reprItems : List Json → List String
  | [] => []
  | item :: items => reprValue item :: reprItems items

def reprFields : List (String × Json) → List String
  | [] => []
  | (name, value) :: fields =>
    (reprStr isPrintable name ++ ": " ++ reprValue value) :: reprFields fields

end

/-- `str(value)`: a string is itself, anything else its `repr`. -/
def toStr : Json → String
  | .str value => value
  | other => reprValue isPrintable other

end Show

end Json

end BackendCore.Python
