/-! Dialogues: computations that ask the world outside and go on with its
replies. Who answers, and when, is left open; a dialogue is a tree that holds
what follows every reply. -/

namespace ClusterRouting

inductive Dialogue {Request : Type} (Reply : Request → Type)
    (Result : Type) where
  | finish (result : Result)
  | ask (request : Request) (resume : Reply request → Dialogue Reply Result)

namespace Dialogue

variable {Request : Type} {Reply : Request → Type}

def request (asked : Request) : Dialogue Reply (Reply asked) :=
  .ask asked .finish

def andThen {First Second : Type} (dialogue : Dialogue Reply First)
    (next : First → Dialogue Reply Second) : Dialogue Reply Second :=
  match dialogue with
  | .finish result => next result
  | .ask asked resume => .ask asked fun reply => (resume reply).andThen next

instance : Monad (Dialogue Reply) where
  pure := .finish
  bind := andThen

def run {Monadic : Type → Type} [Monad Monadic] {Result : Type}
    (answer : (asked : Request) → Monadic (Reply asked)) :
    Dialogue Reply Result → Monadic Result
  | .finish result => pure result
  | .ask asked resume => do
      let reply ← answer asked
      run answer (resume reply)

def embed {Wider : Type} {WiderReply : Wider → Type} {Result : Type}
    (widen : Request → Wider)
    (narrow : (asked : Request) → WiderReply (widen asked) → Reply asked) :
    Dialogue Reply Result → Dialogue WiderReply Result
  | .finish result => .finish result
  | .ask asked resume =>
      .ask (widen asked) fun reply =>
        embed widen narrow (resume (narrow asked reply))

end Dialogue

end ClusterRouting
