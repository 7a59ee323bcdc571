import Switchover.Http.Fields
import Switchover.Http.Target

namespace Switchover.Http

inductive Version where
  | http09
  | http10
  | http11
  | http2
  | http3
  deriving DecidableEq

namespace Version

def all : List Version := [http09, http10, http11, http2, http3]

def text : Version → String
  | http09 => "HTTP/0.9"
  | http10 => "HTTP/1.0"
  | http11 => "HTTP/1.1"
  | http2 => "HTTP/2.0"
  | http3 => "HTTP/3.0"

def ofText? (text : String) : Option Version :=
  all.find? (·.text == text)

end Version

structure Head where
  method : Bytes
  target : Target
  version : Version
  fields : Fields
  deriving DecidableEq

inductive HeadError where
  | invalidMethod
  | invalidTarget (error : TargetError)
  | invalidName
  | invalidValue
  deriving DecidableEq

namespace HeadError

def message : HeadError → String
  | invalidMethod => "invalid HTTP method"
  | invalidTarget error => error.message
  | invalidName => "invalid HTTP header name"
  | invalidValue => "failed to parse header value"

end HeadError

namespace Method

def get : Bytes := Bytes.ascii "GET"
def head : Bytes := Bytes.ascii "HEAD"
def options : Bytes := Bytes.ascii "OPTIONS"
def trace : Bytes := Bytes.ascii "TRACE"
def connect : Bytes := Bytes.ascii "CONNECT"
def delete : Bytes := Bytes.ascii "DELETE"

def safe : List Bytes := [get, head, options, trace]

end Method

namespace Head

def field (name value : Bytes) : Except HeadError Field :=
  match Field.name? name with
  | none => .error .invalidName
  | some name => if Field.isValue value then .ok ⟨name, value⟩ else .error .invalidValue

/-- A head of the given parts, checked in the order in which they stand. -/
def build (method target : Bytes) (version : Version) (lines : List (Bytes × Bytes)) :
    Except HeadError Head := do
  if !Bytes.isToken method then throw .invalidMethod
  let target ← (Target.parse target).mapError .invalidTarget
  let fields ← lines.mapM fun line => field line.1 line.2
  .ok ⟨method, target, version, fields⟩

end Head
end Switchover.Http
