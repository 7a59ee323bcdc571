import Switchover.Http.Head
import Switchover.Preface

namespace Switchover.Upgrade

open Http

def protocol : Bytes := Bytes.ascii "h2c"

def isPreface (head : Head) : Bool :=
  head.method == Bytes.ascii "PRI" && head.target == .asterisk && head.version == .http2

def hasBody (fields : Fields) : Bool :=
  fields.contains Name.transferEncoding ||
    (fields.values Name.contentLength).any (Bytes.trim · != Bytes.ascii "0")

/-- The settings that a request declares, if it asks for the upgrade in due form. -/
def request? (fields : Fields) : Option ClientSettings :=
  if !(fields.lists Name.connection Name.upgrade && fields.lists Name.connection Name.http2Settings)
  then none
  else match fields.values Name.upgrade, fields.values Name.http2Settings with
    | [upgrade], [settings] =>
      if Bytes.sameText (Bytes.trim upgrade) protocol then
        (ClientSettings.decode (Bytes.trim settings)).toOption
      else none
    | _, _ => none

/-- A verdict on a request by its head, and by the bytes read behind it as far as they are known.
Nothing is wrong with a request that asks for the upgrade in a way that cannot be granted. -/
def judge (head : Head) (unread : Bytes) : Verdict :=
  if Preface.bytes.isPrefixOf unread || (isPreface head && Preface.tail.isPrefixOf unread) then
    .priorKnowledge
  else if !Method.safe.contains head.method || hasBody head.fields then .stay
  else match request? head.fields with
    | some settings => .upgrade settings
    | none => .stay

end Switchover.Upgrade
