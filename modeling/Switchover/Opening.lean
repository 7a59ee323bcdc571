import Switchover.Hpack.Encoder
import Switchover.Upgrade

/-!
What an engine reads first on a connection that was upgraded: the preface, the settings that the
client declared, and the request that asked for the upgrade, whole, on stream one.
-/

namespace Switchover.Opening

open Http

def hopByHop : List Bytes :=
  [Name.connection, Name.upgrade, Name.http2Settings, Name.keepAlive, Name.proxyConnection,
    Name.transferEncoding, Name.host]

/-- Whether a field stays behind. Besides the fields that always do, those do that the client lists
in `Connection`. Of `TE`, only the lines that say `trailers` go along. -/
def staysBehind (fields : Fields) (field : Field) : Bool :=
  if field.name == Name.te then !Bytes.sameText field.value (Bytes.ascii "trailers")
  else hopByHop.contains field.name || fields.lists Name.connection field.name

def authority? (head : Head) : Option Bytes :=
  (head.fields.values Name.host).head?.or head.target.authority?

def path (head : Head) : Bytes :=
  head.target.pathQuery?.getD PathQuery.slash

def requestFields (head : Head) : List Hpack.HeaderField :=
  [(Bytes.ascii ":method", head.method), (Bytes.ascii ":scheme", Bytes.ascii "http")] ++
    (authority? head).toList.map (Bytes.ascii ":authority", ·) ++
    [(Bytes.ascii ":path", path head)] ++
    (head.fields.grouped.filter (!staysBehind head.fields ·)).map fun field =>
      (field.name, field.value)

/-- The engine has announced no limits yet, so the header block is cut at the default size. -/
def bytes (settings : ClientSettings) (head : Head) : Except Frame.WriteError Bytes := do
  let declared ← settings.frame
  let request ← Frame.headerBlock .upgrade (Hpack.encode (requestFields head)) true
    (UInt32.ofNat Frame.defaultMaxSize)
  .ok (Preface.bytes ++ declared ++ request)

end Switchover.Opening
