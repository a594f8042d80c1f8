import CommandGrammar.Vars

/-! Typed arguments of actions, made from collected values.

An argument type is a basic type, a list, or an argument that may be missing. A value that is not a
list counts as a list of one item, so that an action need not know how often a variable may be
matched. -/

namespace CommandGrammar

structure IntRange where
  least : Int
  greatest : Int
  deriving DecidableEq, Repr

namespace IntRange

/-- The integers of so many bits, of which one is the sign. -/
def signed (bits : Nat) : IntRange := ⟨-Nat.pow 2 (bits - 1), Nat.pow 2 (bits - 1) - 1⟩

/-- The natural numbers of so many bits. -/
def unsigned (bits : Nat) : IntRange := ⟨0, Nat.pow 2 bits - 1⟩

abbrev Member (r : IntRange) : Type := { n : Int // r.least ≤ n ∧ n ≤ r.greatest }

def member? (r : IntRange) (n : Int) : Option r.Member :=
  if h : r.least ≤ n ∧ n ≤ r.greatest then some ⟨n, h⟩ else none

end IntRange

inductive BasicType where
  | string
  | integer (range : IntRange)
  | real
  | boolean
  | path
  | address
  | network
  | time
  | span
  | offset
  | uri
  | pair
  | value
  deriving DecidableEq, Repr

namespace BasicType

@[reducible]
def Carrier : BasicType → Type
  | string => String
  | integer range => range.Member
  | real => Float
  | boolean => Bool
  | path => String
  | address => Address
  | network => Network
  | time => TimeOfDay
  | span => Span
  | offset => UtcOffset
  | uri => Url
  | pair => String × String
  | value => Value

def expected : BasicType → String
  | string => "string"
  | integer _ => "integer"
  | real => "real number"
  | boolean => "boolean"
  | path => "path"
  | address => "IP address"
  | network => "network"
  | time => "time"
  | span => "duration"
  | offset => "time zone"
  | uri => "URI"
  | pair => "key-value pair"
  | value => "value"

/-- The argument that a value makes. -/
def ofValue? : (t : BasicType) → Value → Option t.Carrier
  | string, .str text => some text
  | integer range, .int n => range.member? n
  | real, .float x => some x
  | boolean, .bool b => some b
  | path, .path p => some p
  | address, .address a => some a
  | network, .network n => some n
  | time, .time t => some t
  | span, .span s => some s
  | offset, .offset o => some o
  | uri, .uri u => some u
  | pair, .pair k v => some (k, v)
  | value, v => some v
  | _, _ => none

/-- The value that makes the argument. -/
def toValue : (t : BasicType) → t.Carrier → Value
  | string, text => .str text
  | integer _, n => .int n.val
  | real, x => .float x
  | boolean, b => .bool b
  | path, p => .path p
  | address, a => .address a
  | network, n => .network n
  | time, t => .time t
  | span, s => .span s
  | offset, o => .offset o
  | uri, u => .uri u
  | pair, p => .pair p.1 p.2
  | value, v => v

end BasicType

inductive ArgumentType where
  | basic (t : BasicType)
  | list (t : ArgumentType)
  | optional (t : ArgumentType)
  deriving DecidableEq, Repr

namespace ArgumentType

@[reducible]
def Carrier : ArgumentType → Type
  | basic t => t.Carrier
  | list t => List t.Carrier
  | optional t => Option t.Carrier

def expected : ArgumentType → String
  | basic t => t.expected
  | list _ => "list"
  | optional t => t.expected

/-- The argument that a value makes. Each byte is an integer, and a single value a list of one
item. -/
def ofValue? : (t : ArgumentType) → Value → Option t.Carrier
  | basic t, v => t.ofValue? v
  | list t, .list items => items.mapM t.ofValue?
  | list t, .bytes bs => bs.mapM fun b => t.ofValue? (.int b.toNat)
  | list t, v => (t.ofValue? v).map fun x => [x]
  | optional t, v => (t.ofValue? v).map some

/-- The argument made when there is no value. -/
def ofMissing? : (t : ArgumentType) → Option t.Carrier
  | basic _ => none
  | list _ => some []
  | optional _ => some none

end ArgumentType

/-- Why an argument cannot be made. -/
inductive ArgumentError where
  | missing (name : String)
  | mismatch (name expected found : String)
  deriving DecidableEq, Repr

def ArgumentError.message : ArgumentError → String
  | missing name => "missing argument " ++ name
  | mismatch name expected found => s!"argument {name} is {found}, expected {expected}"

/-- The argument made of the value with the name. -/
def Vars.get (vars : Vars) (t : ArgumentType) (name : String) : Except ArgumentError t.Carrier :=
  match vars.value? name with
  | some v =>
    match t.ofValue? v with
    | some x => .ok x
    | none => .error (.mismatch name t.expected v.typeName)
  | none =>
    match t.ofMissing? with
    | some x => .ok x
    | none => .error (.missing name)

/-- The argument made of the value with the name, or the given one if there is no such value. -/
def Vars.getD (vars : Vars) (t : ArgumentType) (name : String) (fallback : t.Carrier) :
    Except ArgumentError t.Carrier :=
  if vars.contains name then vars.get t name else .ok fallback

/-- A named argument: which variable it is made of, its type, and what it is when there is no
value. -/
structure ArgumentField where
  name : String
  variableName : String
  type : ArgumentType
  fallback : Option type.Carrier

namespace ArgumentField

/-- The field whose variable has the field's own name, and which has no fallback. -/
def plain (name : String) (type : ArgumentType) : ArgumentField := ⟨name, name, type, none⟩

def read (f : ArgumentField) (vars : Vars) : Except ArgumentError f.type.Carrier :=
  match f.fallback with
  | none => vars.get f.type f.variableName
  | some x => vars.getD f.type f.variableName x

end ArgumentField

/-- A named argument with its type. -/
structure Argument where
  name : String
  type : ArgumentType
  content : type.Carrier

/-- The arguments of the fields, in order. The first field that fails decides the error. -/
def Vars.arguments (vars : Vars) (fields : List ArgumentField) :
    Except ArgumentError (List Argument) :=
  fields.mapM fun f => (f.read vars).map fun x => ⟨f.name, f.type, x⟩

end CommandGrammar
