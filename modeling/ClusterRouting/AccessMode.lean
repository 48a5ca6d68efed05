import ClusterRouting.Error
import ClusterRouting.Text

/-! What a caller wants a connection for, and what a member of the cluster is
there for. -/

namespace ClusterRouting

inductive AccessMode where
  | read
  | write
  deriving DecidableEq, Repr

namespace AccessMode

instance : Inhabited AccessMode := ⟨.read⟩

def name : AccessMode → String
  | .read => "READ"
  | .write => "WRITE"

def parse (text : String) : Except Error AccessMode :=
  if Text.spells text "READ" then .ok .read
  else if Text.spells text "WRITE" then .ok .write
  else .error (.configuration ("Mode '" ++ text ++ "' is not supported"))

def ofName? (text : String) : Option AccessMode :=
  if text == "READ" then some .read
  else if text == "WRITE" then some .write
  else none

def outline : AccessMode → String
  | .read => "Read"
  | .write => "Write"

end AccessMode

inductive Role where
  | route
  | write
  | read
  deriving DecidableEq, Repr

namespace Role

def name : Role → String
  | .route => "ROUTE"
  | .write => "WRITE"
  | .read => "READ"

def parse? (text : String) : Option Role :=
  [Role.route, .write, .read].find? fun role => Text.spells text role.name

end Role

end ClusterRouting
