import Switchover.Http.Message
import Switchover.Server

namespace Switchover

structure Client where
  inbox : Http.Inbox := {}
  isClosed : Bool := false
  isGone : Bool := false
  deriving DecidableEq

namespace Client

variable {π : Type → Type} {τ κ ε : Type}

structure Sight where
  replies : List Http.Reply
  raw : Bytes

/-- Looks at what has come. A client that has gone sees nothing. -/
def look (serving : Serving π Pipe τ κ ε) (client : Client) :
    Sight × Serving π Pipe τ κ ε × Client :=
  match client.isGone, serving.stream? with
  | false, some pipe =>
    let (bytes, _) := pipe.receive
    let (replies, raw, inbox) := client.inbox.receive bytes
    (⟨replies, raw⟩, serving.modify fun pipe => pipe.receive.2,
      { client with inbox, isClosed := pipe.isShut || serving.isDropped })
  | _, _ => (⟨[], []⟩, serving, client)

def send (bytes : Bytes) (serving : Serving π Pipe τ κ ε) : Bool × Serving π Pipe τ κ ε :=
  match serving.stream? with
  | some pipe =>
    if serving.isDropped && !bytes.isEmpty then (false, serving)
    else ((pipe.send bytes).1, serving.modify fun pipe => (pipe.send bytes).2)
  | none => (false, serving)

end Client
end Switchover
