import ClusterRouting.Error
import ClusterRouting.Text
import ClusterRouting.Text.Numeral
import ClusterRouting.Text.Quoted

/-! Addresses of cluster members: a host and a port. -/

namespace ClusterRouting

structure Address where
  host : String
  port : UInt16
  deriving DecidableEq, Repr

namespace Address

def standardPort : UInt16 := 7687

instance : Inhabited Address := ⟨⟨"localhost", standardPort⟩⟩

def order (first second : Address) : Ordering :=
  (compare first.host second.host).then (compare first.port second.port)

def describe (address : Address) : String :=
  let port := toString address.port.toNat
  if address.host.toList.contains ':' then
    "[" ++ address.host ++ "]:" ++ port
  else address.host ++ ":" ++ port

def outline (address : Address) : String :=
  Text.outline "ServerAddress"
    [("host", Text.quote address.host),
      ("port", toString address.port.toNat)]

/-! ## Reading -/

inductive Malformed where
  | empty
  | unclosed (text : String)
  | port (text : String)
  deriving DecidableEq, Repr

def Malformed.message : Malformed → String
  | .empty => "Empty server address"
  | .unclosed text => "Invalid server address '" ++ text ++ "'"
  | .port text => "Invalid port in server address '" ++ text ++ "'"

def Malformed.toError (malformed : Malformed) : Error :=
  .configuration malformed.message

def readPort (text part : List Char) : Except Malformed UInt16 :=
  match Text.naturalBelow? UInt16.size part with
  | some port => .ok (.ofNat port)
  | none => .error (.port (String.ofList text))

/-- What follows a closing bracket: nothing, or a port with or without a colon
in front of it. -/
def readTail (text tail : List Char) : Except Malformed UInt16 :=
  match tail with
  | [] => .ok standardPort
  | ':' :: part => readPort text part
  | part => readPort text part

/-- An address without blanks around it. A host in brackets may hold colons.
Without brackets one colon separates host and port, and a text with more
colons is a host as a whole. -/
def read (text : List Char) : Except Malformed Address :=
  match text with
  | [] => .error .empty
  | '[' :: rest =>
      match Text.cut? ']' rest with
      | none => .error (.unclosed (String.ofList text))
      | some (host, tail) =>
          (readTail text tail).map fun port => ⟨String.ofList host, port⟩
  | _ =>
      match Text.pieces (· == ':') text with
      | [host] => .ok ⟨String.ofList host, standardPort⟩
      | [host, part] =>
          (readPort text part).map fun port => ⟨String.ofList host, port⟩
      | _ => .ok ⟨String.ofList text, standardPort⟩

def parse (text : String) : Except Malformed Address :=
  read (Text.trim text.toList)

def authority (uri : String) : String :=
  let rest := (Text.after? "://".toList uri.toList).getD uri.toList
  String.ofList (rest.takeWhile fun character =>
    character != '/' && character != '?')

def ofUri (uri : String) : Except Malformed Address :=
  parse (authority uri)

end Address

end ClusterRouting
