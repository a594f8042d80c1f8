import CommandGrammar.Derive.Item

/-! The code that fills the fields of a struct from the values of variables. -/

namespace CommandGrammar.Derive

/-- A field of a struct, and how it is filled. -/
structure Field where
  name : String
  variableName : String
  fallback : Option FieldDefault

namespace Field

/-- The field that is declared. Its variable has the field's name unless the field is renamed. The
mark of a raw identifier is no part of the name. -/
def ofItem (f : FieldItem) : Except DeriveError Field := do
  let settings ← FieldSettings.ofAttributes f.attributes
  let plain := if f.name.startsWith "r#" then String.ofList (f.name.toList.drop 2) else f.name
  return ⟨f.name, settings.rename.getD plain, settings.fallback⟩

def code (f : Field) : String :=
  let key := StringLiteral.ofText f.variableName
  f.name ++ " : " ++
    match f.fallback with
    | none => "vars . get (" ++ key ++ ") ?"
    | some .ofType =>
      "vars . get_or_else (" ++ key ++ " , :: std :: default :: Default :: default) ?"
    | some (.expression ts) =>
      "vars . get_or_else (" ++ key ++ " , || " ++ TokenTree.textOfList ts ++ ") ?"

end Field

namespace Parameter

/-- Whether the parameter is a lifetime. Lifetimes are printed before all others. -/
def isLifetime (p : Parameter) : Bool :=
  match p.kind with
  | .lifetime _ => true
  | _ => false

def commaTokens (p : Parameter) : List TokenTree := if p.comma then [.punct ',' false] else []

def boundTokens (bounds : List TokenTree) : List TokenTree :=
  if bounds.isEmpty then [] else .punct ':' false :: bounds

/-- The parameter as it is declared, without a default. -/
def declared (p : Parameter) : List TokenTree :=
  p.attributes ++
    match p.kind with
    | .lifetime bounds => p.name ++ boundTokens bounds
    | .type bounds => p.name ++ boundTokens bounds
    | .const type => .ident "const" :: p.name ++ boundTokens type

/-- Parameters in angle brackets, each printed in the given way. -/
def printAll (tokens : Parameter → List TokenTree) (ps : List Parameter) : List TokenTree :=
  if ps.isEmpty then []
  else
    let lifetimes := ps.filter isLifetime
    let others := ps.filter (!isLifetime ·)
    let between :=
      if others.isEmpty || lifetimes.getLast?.all (·.comma) then [] else [.punct ',' false]
    let print := fun (p : Parameter) => tokens p ++ p.commaTokens
    [.punct '<' false] ++ lifetimes.flatMap print ++ between ++ others.flatMap print ++
      [.punct '>' false]

end Parameter

/-- The fields of a struct, or nothing if it has no braces. -/
def fieldsOf (item : Item) : Except DeriveError (Option (List Field)) :=
  match item.body with
  | .unit => .ok none
  | .named fields => do return some (← fields.mapM Field.ofItem)
  | .tuple => .error .tupleStruct
  | .notStruct => .error .notStruct

def bodyCode (name : String) (fields : Option (List Field)) : String :=
  let value := match fields with
    | none => name
    | some [] => name ++ " \x7b \x7d"
    | some fields => name ++ " \x7b " ++ " , ".intercalate (fields.map (·.code)) ++ " \x7d"
  ":: std :: result :: Result :: Ok (" ++ value ++ ")"

def code (item : Item) (fields : Option (List Field)) : String :=
  let vars := if fields.any (!·.isEmpty) then "vars" else "_vars"
  let pieces :=
    ["impl", TokenTree.textOfList (Parameter.printAll (·.declared) item.parameters),
      ":: cly :: FromVars for", item.name,
      TokenTree.textOfList (Parameter.printAll (·.name) item.parameters),
      TokenTree.textOfList item.conditions,
      "\x7b fn from_vars (" ++ vars ++ " : & :: cly :: Vars) ->",
      ":: std :: result :: Result < Self , :: cly :: ArgumentError >",
      "\x7b " ++ bodyCode item.name fields ++ " \x7d \x7d"]
  " ".intercalate (pieces.filter (!·.isEmpty))

/-- What is generated for an item: its fields, and the code. -/
structure Generated where
  fields : Option (List Field)
  code : String

def generate (item : Item) : Except DeriveError Generated := do
  let fields ← fieldsOf item
  return ⟨fields, code item fields⟩

def Item.read? (source : String) : Option Item := (tokens? source).bind Item.ofTokens

end CommandGrammar.Derive
