import ClusterRouting.Composition
import ClusterRouting.Connection
import ClusterRouting.Dialogue
import ClusterRouting.Duration
import ClusterRouting.Value

/-! What routing asks of the world outside: the pool and its connections, the
resolver of addresses, the clock and the log. -/

namespace ClusterRouting

/-! ## Notices for the log -/

inductive Level where
  | trace
  | debug
  | info
  | warn
  | error
  deriving DecidableEq, Repr

def Level.name : Level → String
  | .trace => "TRACE"
  | .debug => "DEBUG"
  | .info => "INFO"
  | .warn => "WARN"
  | .error => "ERROR"

structure Notice where
  level : Level
  text : String
  deriving DecidableEq, Repr

/-! ## Requests -/

inductive Request where
  | acquire (address : Address)
  | run (connection : Connection) (query : String)
      (parameters : List (String × Value))
  | release (connection : Connection)
  /-- Ask a router for the composition of the cluster in some other way. -/
  | compose (router : Address)
  | resolve (address : Address)
  | pause (delay : Duration)
  | clock
  | note (notice : Notice)

def Request.Reply : Request → Type
  | .acquire _ => Except Error Connection
  | .run _ _ _ => Except Error (List Record)
  | .release _ => Except Error Unit
  | .compose _ => Except Error Composition
  | .resolve _ => Except Error (List Address)
  | .pause _ => Unit
  | .clock => Timestamp
  | .note _ => Unit

abbrev Exchange (Result : Type) := Dialogue Request.Reply Result

namespace Exchange

def acquire (address : Address) : Exchange (Except Error Connection) :=
  Dialogue.request (Request.acquire address)

def runQuery (connection : Connection) (query : String)
    (parameters : List (String × Value)) :
    Exchange (Except Error (List Record)) :=
  Dialogue.request (Request.run connection query parameters)

def release (connection : Connection) : Exchange (Except Error Unit) :=
  Dialogue.request (Request.release connection)

def compose (router : Address) : Exchange (Except Error Composition) :=
  Dialogue.request (Request.compose router)

def clock : Exchange Timestamp :=
  Dialogue.request Request.clock

def note (level : Level) (text : String) : Exchange Unit :=
  Dialogue.request (Request.note ⟨level, text⟩)

end Exchange

end ClusterRouting
