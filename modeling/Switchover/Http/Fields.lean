import Switchover.Bytes

namespace Switchover.Http

structure Field where
  name : Bytes
  value : Bytes
  deriving DecidableEq

abbrev Fields := List Field

namespace Field

def longestName : Nat := 65535

def name? (bytes : Bytes) : Option Bytes :=
  if Bytes.isToken bytes && bytes.length ≤ longestName then some (bytes.map Bytes.lowerCase)
  else none

def isValueByte (b : UInt8) : Bool :=
  b == 0x09 || (0x20 ≤ b && b != 0x7f)

def isValue (bytes : Bytes) : Bool :=
  bytes.all isValueByte

def isPlainByte (b : UInt8) : Bool :=
  b == 0x09 || (0x20 ≤ b && b ≤ 0x7e)

end Field

namespace Fields

def values (fields : Fields) (name : Bytes) : List Bytes :=
  (fields.filter (·.name == name)).map (·.value)

def contains (fields : Fields) (name : Bytes) : Bool :=
  fields.any (·.name == name)

def elements (fields : Fields) (name : Bytes) : List Bytes :=
  (fields.values name).flatMap Bytes.elements

def lists (fields : Fields) (name token : Bytes) : Bool :=
  (fields.elements name).any (Bytes.sameText · token)

/-- The lines name by name: names in order of their first line, the lines of one name in order. -/
def grouped (fields : Fields) : Fields :=
  (fields.map (·.name)).eraseDups.flatMap fun name => fields.filter (·.name == name)

end Fields

namespace Name

def connection : Bytes := Bytes.ascii "connection"
def contentLength : Bytes := Bytes.ascii "content-length"
def expect : Bytes := Bytes.ascii "expect"
def host : Bytes := Bytes.ascii "host"
def http2Settings : Bytes := Bytes.ascii "http2-settings"
def keepAlive : Bytes := Bytes.ascii "keep-alive"
def proxyConnection : Bytes := Bytes.ascii "proxy-connection"
def te : Bytes := Bytes.ascii "te"
def transferEncoding : Bytes := Bytes.ascii "transfer-encoding"
def upgrade : Bytes := Bytes.ascii "upgrade"

end Name
end Switchover.Http
