import ClusterRouting.Error
import ClusterRouting.Text
import ClusterRouting.Value

/-! Routing contexts: the key-value pairs of a URI's query, which the routing
procedure takes as its parameter. -/

namespace ClusterRouting

structure Context where
  entries : List (String × String)
  nodup : (entries.map (·.1)).Nodup
  deriving DecidableEq

namespace Context

def empty : Context := ⟨[], List.nodup_nil⟩

instance : Inhabited Context := ⟨empty⟩

def isDefined (context : Context) : Bool :=
  !context.entries.isEmpty

def get? (context : Context) (key : String) : Option String :=
  context.entries.lookup key

def add? (context : Context) (key value : String) : Option Context :=
  if fresh : key ∈ context.entries.map (·.1) then none
  else
    some
      { entries := context.entries ++ [(key, value)]
        nodup := by
          rw [List.map_append, List.nodup_append]
          refine ⟨context.nodup, by simp, ?_⟩
          intro old oldMember new newMember equal
          simp only [List.map_cons, List.map_nil, List.mem_singleton]
            at newMember
          exact fresh (newMember ▸ equal ▸ oldMember) }

inductive Malformed where
  | unassigned (pair uri : String)
  | blank (uri : String)
  | repeated (key uri : String)
  deriving DecidableEq, Repr

def Malformed.message : Malformed → String
  | .unassigned pair uri =>
      "Invalid parameters: '" ++ pair ++ "' in URI '" ++ uri ++ "'"
  | .blank uri => "Illegal empty key or value in URI query '" ++ uri ++ "'"
  | .repeated key uri =>
      "Duplicated query parameters with key '" ++ key ++ "' in URI '" ++ uri
        ++ "'"

def Malformed.toError (malformed : Malformed) : Error :=
  .configuration malformed.message

def addPairs (uri : String) (context : Context) :
    List (List Char) → Except Malformed Context
  | [] => .ok context
  | pair :: rest =>
      match Text.cut? '=' pair with
      | none => .error (.unassigned (String.ofList pair) uri)
      | some (left, right) =>
          let key := Text.trim left
          let value := Text.trim right
          if key.isEmpty || value.isEmpty then .error (.blank uri)
          else
            match context.add? (String.ofList key) (String.ofList value) with
            | none => .error (.repeated (String.ofList key) uri)
            | some extended => addPairs uri extended rest

/-- The context in the query of a URI, which starts after its first question
mark. Empty pairs are skipped, and a URI without a query has no pairs. -/
def ofUri (uri : String) : Except Malformed Context :=
  match Text.cut? '?' uri.toList with
  | none => .ok empty
  | some (_, query) =>
      addPairs uri empty
        ((Text.pieces (· == '&') query).filter (!·.isEmpty))

def toValue (context : Context) : Value :=
  .map (context.entries.map fun (key, value) => (key, .string value))

/-! ## Serial form -/

def toJson (context : Context) : Json :=
  .object (context.entries.map fun (key, value) => (key, .text value))

/-- The context with the fields of an object added in order; the last of
several fields with one name counts. -/
def addFields? (context : Context) :
    List (String × Json) → Option Context
  | [] => some context
  | (name, value) :: rest => do
      let text ← value.text?
      if rest.any (·.1 == name) then addFields? context rest
      else addFields? (← context.add? name text) rest

def ofJson? : Json → Option Context
  | .object fields => addFields? empty fields
  | _ => none

end Context

end ClusterRouting
