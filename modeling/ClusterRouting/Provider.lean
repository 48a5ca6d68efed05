import ClusterRouting.Composition
import ClusterRouting.Procedure

/-! Providers: ways to learn the composition of the cluster from one router. -/

namespace ClusterRouting

/-- A provider asks the world outside and cannot touch the routing table. -/
abbrev Provider := Address → Exchange (Except Error Composition)

namespace Provider

inductive Unusable where
  | refused (cause : Error)
  | recordCount (count : Nat)
  | unparsable (cause : Error)
  | incomplete

def Unusable.toError (query : String) : Unusable → Error
  | .refused cause =>
      .serviceUnavailable
        ("Failed to run '" ++ query ++ "' on server. Please make sure that " ++
          "there is a Zeta4G server or cluster up running: " ++ cause.describe)
  | .recordCount count =>
      .protocol
        ("Failed to parse '" ++ query ++ "' result received from server due " ++
          "to records received '" ++ toString count ++
          "' is too few or too many.")
  | .unparsable cause =>
      .protocol
        ("Failed to parse '" ++ query ++ "' result received from server due " ++
          "to unparsable record received: " ++ cause.describe)
  | .incomplete =>
      .protocol
        ("Failed to parse '" ++ query ++ "' result received from server due " ++
          "to no router or reader found in response.")

def soleRecord : Except Error (List Record) → Except Unusable Record
  | .error cause => .error (.refused cause)
  | .ok [record] => .ok record
  | .ok records => .error (.recordCount records.length)

/-- The composition in a record. It needs at least one router and one reader;
there may be no writer for a while. -/
def validate (now : Timestamp) (record : Record) :
    Except Unusable Composition :=
  match Composition.parse record now with
  | .error cause => .error (.unparsable cause)
  | .ok composition =>
      if composition.hasRoutersAndReaders then .ok composition
      else .error .incomplete

/-- The composition in the answer of a router. The clock is read only if there
is a record to parse. -/
def process (response : Procedure.Response) :
    Exchange (Except Error Composition) :=
  match soleRecord response.result with
  | .error unusable => return .error (unusable.toError response.query)
  | .ok record => do
      let now ← Exchange.clock
      return (validate now record).mapError (Unusable.toError response.query)

def procedure (context : Context) : Provider := fun router => do
  match ← Exchange.acquire router with
  | .error error => return .error error
  | .ok connection =>
      match ← Procedure.call context connection with
      | .error error => return .error error
      | .ok response => process response

def external : Provider :=
  Exchange.compose

end Provider

end ClusterRouting
