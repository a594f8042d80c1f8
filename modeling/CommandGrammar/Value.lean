import CommandGrammar.Clock
import CommandGrammar.Decimal.Notation
import CommandGrammar.Network.Address
import CommandGrammar.Text.Escaped
import CommandGrammar.Text.Utf8
import CommandGrammar.Url

/-! The values that tokens are converted to, and the error when a token has none. -/

namespace CommandGrammar

/-- A value that a variable collects. -/
inductive Value where
  | str (s : String)
  | int (n : Int)
  | float (x : Float)
  | bool (b : Bool)
  | path (p : String)
  | address (a : Address)
  | network (n : Network)
  | pair (key value : String)
  | time (t : TimeOfDay)
  | span (s : Span)
  | offset (o : UtcOffset)
  | uri (u : Url)
  | bytes (bs : List UInt8)
  | list (items : List Value)

namespace Value

/-- What a message calls the value. -/
def typeName : Value → String
  | str _ => "string"
  | int _ => "integer"
  | float _ => "real number"
  | bool _ => "boolean"
  | path _ => "path"
  | address _ => "IP address"
  | network _ => "network"
  | pair .. => "key-value pair"
  | time _ => "time"
  | span _ => "duration"
  | offset _ => "time zone"
  | uri _ => "URI"
  | bytes _ => "bytes"
  | list _ => "list"

/-- The text, if the value is one. -/
def asText? : Value → Option String
  | str s => some s
  | _ => none

/-- The bytes, if the value is made of bytes. -/
def asBytes? : Value → Option (List UInt8)
  | bytes bs => some bs
  | _ => none

/-- The items, if the value is a list. -/
def asList? : Value → Option (List Value)
  | list items => some items
  | _ => none

mutual

/-- The value as text. -/
def text : Value → String
  | str s => s
  | int n => toString n
  | float x => Decimal.plainText x
  | bool b => if b then "true" else "false"
  | path p => p
  | address a => a.text
  | network n => n.text
  | pair key value => key ++ "=" ++ value
  | time t => t.text
  | span s => s.text
  | offset o => o.text
  | uri u => u.text
  | bytes bs => Text.ofUtf8 bs
  | list items => "[" ++ itemsText items ++ "]"

/-- The items as text, with commas between. -/
def itemsText : List Value → String
  | [] => ""
  | [item] => item.text
  | item :: items => item.text ++ ", " ++ itemsText items

end

mutual

/-- The value as a debugging message shows it. -/
def debugText : Value → String
  | str s => "Str(" ++ Text.escaped s ++ ")"
  | int n => "Int(" ++ toString n ++ ")"
  | float x => "Float(" ++ Decimal.listedText x ++ ")"
  | bool b => if b then "Bool(true)" else "Bool(false)"
  | path p => "Path(" ++ Text.escaped p ++ ")"
  | address a => "Ip(" ++ a.text ++ ")"
  | network n => "Network(" ++ n.text ++ ")"
  | pair key value => "Pair(" ++ Text.escaped key ++ ", " ++ Text.escaped value ++ ")"
  | time t => "Time(" ++ t.text ++ ")"
  | span s => "Duration(" ++ s.text ++ ")"
  | offset o => "Offset(" ++ o.text ++ ")"
  | uri u => "Uri(" ++ u.text ++ ")"
  | bytes bs => "Bytes([" ++ ", ".intercalate (bs.map fun b => toString b.toNat) ++ "])"
  | list items => "List([" ++ itemsDebugText items ++ "])"

/-- The items as a debugging message shows them, with commas between. -/
def itemsDebugText : List Value → String
  | [] => ""
  | [item] => item.debugText
  | item :: items => item.debugText ++ ", " ++ itemsDebugText items

end

end Value

/-- A token that a kind of value refuses: the text, why, and what was expected instead. -/
structure ValueError where
  text : String
  reason : Option String
  expected : Option String
  deriving DecidableEq, Repr

/-- The message for an error. -/
def ValueError.message (e : ValueError) : String :=
  "cannot parse " ++ Text.escaped e.text ++
    (match e.reason with
      | some reason => " (" ++ reason ++ ")"
      | none => "") ++
    (match e.expected with
      | some expected => ", expected " ++ expected
      | none => "")

end CommandGrammar
