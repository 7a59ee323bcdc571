import Switchover.Decimal
import Switchover.Http.Lines

namespace Switchover.Http

structure Request where
  head : Head
  body : Bytes
  deriving DecidableEq

structure Response where
  status : Nat
  fields : Fields := []
  body : Bytes := []
  deriving DecidableEq

namespace Status

def reason : Nat → String
  | 100 => "Continue"
  | 101 => "Switching Protocols"
  | 102 => "Processing"
  | 103 => "Early Hints"
  | 200 => "OK"
  | 201 => "Created"
  | 202 => "Accepted"
  | 203 => "Non Authoritative Information"
  | 204 => "No Content"
  | 205 => "Reset Content"
  | 206 => "Partial Content"
  | 207 => "Multi-Status"
  | 208 => "Already Reported"
  | 226 => "IM Used"
  | 300 => "Multiple Choices"
  | 301 => "Moved Permanently"
  | 302 => "Found"
  | 303 => "See Other"
  | 304 => "Not Modified"
  | 305 => "Use Proxy"
  | 307 => "Temporary Redirect"
  | 308 => "Permanent Redirect"
  | 400 => "Bad Request"
  | 401 => "Unauthorized"
  | 402 => "Payment Required"
  | 403 => "Forbidden"
  | 404 => "Not Found"
  | 405 => "Method Not Allowed"
  | 406 => "Not Acceptable"
  | 407 => "Proxy Authentication Required"
  | 408 => "Request Timeout"
  | 409 => "Conflict"
  | 410 => "Gone"
  | 411 => "Length Required"
  | 412 => "Precondition Failed"
  | 413 => "Payload Too Large"
  | 414 => "URI Too Long"
  | 415 => "Unsupported Media Type"
  | 416 => "Range Not Satisfiable"
  | 417 => "Expectation Failed"
  | 418 => "I'm a teapot"
  | 421 => "Misdirected Request"
  | 422 => "Unprocessable Entity"
  | 423 => "Locked"
  | 424 => "Failed Dependency"
  | 425 => "Too Early"
  | 426 => "Upgrade Required"
  | 428 => "Precondition Required"
  | 429 => "Too Many Requests"
  | 431 => "Request Header Fields Too Large"
  | 451 => "Unavailable For Legal Reasons"
  | 500 => "Internal Server Error"
  | 501 => "Not Implemented"
  | 502 => "Bad Gateway"
  | 503 => "Service Unavailable"
  | 504 => "Gateway Timeout"
  | 505 => "HTTP Version Not Supported"
  | 506 => "Variant Also Negotiates"
  | 507 => "Insufficient Storage"
  | 508 => "Loop Detected"
  | 510 => "Not Extended"
  | 511 => "Network Authentication Required"
  | _ => "<none>"

def line (version : Version) (status : Nat) : String :=
  version.text ++ " " ++ toString status ++ " " ++ reason status

def isInformational (status : Nat) : Bool := status / 100 == 1

def isSuccess (status : Nat) : Bool := status / 100 == 2

/-- Whether a response to the method may say how long its body is. -/
def hasLength (method : Bytes) (status : Nat) : Bool :=
  !(isInformational status || (method == Method.connect && isSuccess status) ||
    status == 204 || status == 304)

def hasBody (method : Bytes) (status : Nat) : Bool :=
  hasLength method status && method != Method.head

end Status

namespace Response

def decimal (n : Nat) : Bytes := Bytes.ascii (toString n)

/-- The field that tells the length of a body. Nothing is said about an empty one where there could
be none. -/
def lengthField (method : Bytes) (response : Response) : Fields :=
  let isSaid := if response.body.isEmpty then Status.hasBody else Status.hasLength
  if isSaid method response.status then [⟨Name.contentLength, decimal response.body.length⟩] else []

def fieldLine (field : Field) : Bytes :=
  field.name ++ Bytes.ascii ": " ++ field.value ++ Lines.newline

def wire (version : Version) (method : Bytes) (response : Response) : Bytes :=
  Bytes.ascii (Status.line version response.status) ++ Lines.newline ++
    (response.fields ++ lengthField method response).flatMap fieldLine ++ Lines.newline ++
    (if Status.hasBody method response.status then response.body else [])

end Response

structure Reply where
  status : Bytes
  fields : Fields
  body : Bytes
  deriving DecidableEq

namespace Reply

/-- The first response in the bytes. Its length has to be declared, or it is empty. -/
def parse (bytes : Bytes) : Parsed Reply :=
  match Lines.line? bytes with
  | none => .incomplete
  | some (status, rest) =>
    (Lines.fields rest.length rest).bind fun fields rest =>
    match (fields.values Name.contentLength).head? with
    | none => .done ⟨status, fields, []⟩ rest
    | some length =>
      match (Decimal.digits rest.length length).toOption with
      | none => .incomplete
      | some length => .done ⟨status, fields, rest.take length⟩ (rest.drop length)

def opening : Bytes := Bytes.ascii "HTTP/1."

def switching : Bytes := Bytes.ascii "101"

def switches (reply : Reply) : Bool :=
  (reply.status.drop (opening.length + 2)).take 3 == switching

end Reply

structure Inbox where
  /-- Whether the bytes have stopped being HTTP/1. -/
  raw : Bool := false
  held : Bytes := []
  deriving DecidableEq

namespace Inbox

def receive (bytes : Bytes) (inbox : Inbox) : List Reply × Bytes × Inbox :=
  if inbox.raw then ([], bytes, inbox) else go (inbox.held ++ bytes).length (inbox.held ++ bytes)
where
  go : Nat → Bytes → List Reply × Bytes × Inbox
    | 0, held => ([], [], { held })
    | fuel + 1, held =>
      if !Reply.opening.isPrefixOf held && !held.isPrefixOf Reply.opening then
        ([], held, { raw := true })
      else match Reply.parse held with
        | .done reply rest =>
          if reply.switches then ([reply], rest, { raw := true })
          else
            let (replies, raw, inbox) := go fuel rest
            (reply :: replies, raw, inbox)
        | _ => ([], [], { held })

end Inbox
end Switchover.Http
