import TabletRoster.Proofs.Deliveries
import TabletRoster.Proofs.Hosting
import TabletRoster.Proofs.Requests

/-!
Conversations. What a server does on a connection is a fold over the requests that the stream
holds: it answers them in order, each on the server that those before it left, up to the first
packet that is no request or the end of the stream.
-/
namespace TabletRoster

namespace TabletServer

/-- What a stream tells the peer: responses in whole packets, one after another, and no more. -/
inductive Tells : ByteArray → List Rpc.Response → Prop where
  | nothing : Tells .empty []
  | next {body rest : ByteArray} {response : Rpc.Response} {later : List Rpc.Response}
      (fits : body.size ≤ Framing.limit)
      (read : Rpc.Response.decode body.data.toList = .ok response) (others : Tells rest later) :
      Tells (Framing.frame body ++ rest) (response :: later)

variable {σ : Type} [Keys.Engine σ]

def after (service : Keys.Service σ) (server : TabletServer) (requests : List Rpc.Request) :
    TabletServer :=
  requests.foldl (fun server request => (server.handle service 0 request).2) server

variable {service : Keys.Service σ} {clock : Nat → Nat} {order : Nat → Rpc.Arrangement}
  {server : TabletServer}

end TabletServer
end TabletRoster
