import Switchover.Bytes

namespace Switchover.Http

structure PathQuery where
  path : Bytes
  query : Option Bytes
  deriving DecidableEq

inductive Target where
  /-- `/path?query` -/
  | origin (pathQuery : PathQuery)
  /-- `*` -/
  | asterisk
  /-- `scheme://authority/path?query` -/
  | absolute (scheme authority : Bytes) (pathQuery : PathQuery)
  /-- `host:port` -/
  | authority (authority : Bytes)
  deriving DecidableEq

inductive TargetError where
  | empty
  | tooLong
  | invalidCharacter
  | invalidAuthority
  | invalidFormat
  | schemeTooLong
  deriving DecidableEq

namespace TargetError

def message : TargetError → String
  | empty => "empty string"
  | tooLong => "uri too long"
  | invalidCharacter => "invalid uri character"
  | invalidAuthority => "invalid authority"
  | invalidFormat => "invalid format"
  | schemeTooLong => "scheme too long"

end TargetError

namespace PathQuery

def slash : Bytes := [0x2f]
def question : UInt8 := 0x3f
def hash : UInt8 := 0x23

def isPathByte (b : UInt8) : Bool :=
  b == 0x21 || b == 0x22 || (0x24 ≤ b && b ≤ 0x3b) || b == 0x3d || (0x40 ≤ b && b ≤ 0x5f) ||
    (0x61 ≤ b && b != 0x7f)

def isQueryByte (b : UInt8) : Bool :=
  b == 0x21 || (0x24 ≤ b && b ≤ 0x3b) || b == 0x3d || (0x3f ≤ b && b != 0x7f)

/-- Reads a path and a query. A fragment behind them is dropped unseen. -/
def parse (bytes : Bytes) : Except TargetError PathQuery :=
  let path := bytes.takeWhile fun b => b != question && b != hash
  let query := match bytes.drop path.length with
    | b :: rest => if b == question then some (rest.takeWhile (· != hash)) else none
    | [] => none
  let spelled := path ++ (query.elim [] (question :: ·))
  if path.all isPathByte && (query.getD []).all isQueryByte && (Bytes.text? spelled).isSome then
    .ok ⟨path, query⟩
  else .error .invalidCharacter

/-- The text of both parts. Without any, it is the root path. -/
def text (pathQuery : PathQuery) : Bytes :=
  let spelled := pathQuery.path ++ (pathQuery.query.elim [] (question :: ·))
  if spelled.isEmpty then slash else spelled

def rooted (pathQuery : PathQuery) : Bytes :=
  if pathQuery.path.isEmpty then slash else pathQuery.path

end PathQuery

namespace Target

def longest : Nat := 65534
def longestScheme : Nat := 64

def isAuthorityByte (b : UInt8) : Bool :=
  b == 0x21 || (0x23 ≤ b && b ≤ 0x3b) || b == 0x3d || (0x3f ≤ b && b ≤ 0x5b) || b == 0x5d ||
    b == 0x5f || (0x61 ≤ b && b ≤ 0x7a) || b == 0x7e

def isSchemeByte (b : UInt8) : Bool :=
  (0x30 ≤ b && b ≤ 0x39) || (0x41 ≤ b && b ≤ 0x5a) || (0x61 ≤ b && b ≤ 0x7a) ||
    b == 0x2b || b == 0x2d || b == 0x2e || b == 0x7e

def isAuthorityEnd (b : UInt8) : Bool :=
  b == 0x2f || b == 0x3f || b == 0x23

/-- What has been seen of an authority. Colons and percent signs of the user information, and those
inside brackets, do not count for the host. -/
structure AuthorityScan where
  colons : Nat := 0
  opened : Bool := false
  closed : Bool := false
  percent : Bool := false
  endsInAt : Bool := false

def AuthorityScan.next (scan : AuthorityScan) (b : UInt8) : Except TargetError AuthorityScan :=
  let scan := { scan with endsInAt := b == 0x40 }
  if b == 0x3a then
    if 8 ≤ scan.colons then .error .invalidAuthority
    else .ok { scan with colons := scan.colons + 1 }
  else if b == 0x5b then
    if scan.percent || scan.opened then .error .invalidAuthority
    else .ok { scan with opened := true }
  else if b == 0x5d then
    if !scan.opened || scan.closed then .error .invalidAuthority
    else .ok { scan with closed := true, colons := 0, percent := false }
  else if b == 0x40 then .ok { scan with colons := 0, percent := false }
  else if b == 0x25 then .ok { scan with percent := true }
  else if isAuthorityByte b then .ok scan
  else .error .invalidCharacter

def splitAuthority (bytes : Bytes) : Except TargetError (Bytes × Bytes) := do
  if bytes.isEmpty then throw .empty
  let name := bytes.takeWhile (!isAuthorityEnd ·)
  let scan ← name.foldlM AuthorityScan.next {}
  if scan.opened != scan.closed || 1 < scan.colons || scan.endsInAt || scan.percent then
    throw .invalidAuthority
  .ok (name, bytes.drop name.length)

def splitScheme (bytes : Bytes) : Except TargetError (Option (Bytes × Bytes)) :=
  let name := bytes.takeWhile isSchemeByte
  let rest := bytes.drop name.length
  if 3 < bytes.length && rest.take 3 == Bytes.ascii "://" then
    let known := [Bytes.ascii "http", Bytes.ascii "https"].find? (Bytes.sameText name)
    match known with
    | some scheme => .ok (some (scheme, rest.drop 3))
    | none =>
      if longestScheme < name.length then .error .schemeTooLong
      else .ok (some (name, rest.drop 3))
  else .ok none

def parse (bytes : Bytes) : Except TargetError Target := do
  if longest < bytes.length then throw .tooLong
  match bytes with
  | [] => throw .empty
  | [0x2a] => .ok .asterisk
  | 0x2f :: _ => .ok (.origin (← PathQuery.parse bytes))
  | _ =>
    match ← splitScheme bytes with
    | none =>
      let (name, rest) ← splitAuthority bytes
      if rest.isEmpty then .ok (.authority name)
      else throw (if bytes.length = 1 then .invalidCharacter else .invalidFormat)
    | some (scheme, rest) =>
      let (name, rest) ← splitAuthority rest
      if name.isEmpty then throw .invalidFormat
      .ok (.absolute scheme name (← PathQuery.parse rest))

def scheme? : Target → Option Bytes
  | absolute scheme _ _ => some scheme
  | origin _ | asterisk | authority _ => none

def authority? : Target → Option Bytes
  | absolute _ name _ | authority name => some name
  | origin _ | asterisk => none

def pathQuery? : Target → Option Bytes
  | origin pathQuery | absolute _ _ pathQuery => some pathQuery.text
  | asterisk => some [0x2a]
  | authority _ => none

def path : Target → Bytes
  | origin pathQuery | absolute _ _ pathQuery => pathQuery.rooted
  | asterisk => [0x2a]
  | authority _ => []

def text : Target → Bytes
  | origin pathQuery => shown pathQuery
  | asterisk => [0x2a]
  | absolute scheme name pathQuery => scheme ++ Bytes.ascii "://" ++ name ++ shown pathQuery
  | authority name => name
where
  shown (pathQuery : PathQuery) : Bytes :=
    pathQuery.rooted ++ (pathQuery.query.elim [] (PathQuery.question :: ·))

end Target
end Switchover.Http
