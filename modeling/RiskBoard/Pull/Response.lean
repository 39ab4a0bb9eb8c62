import RiskBoard.Dataset.Record

/-!
# Responses to pulls

What the backend answers to one pull, and what becomes of it: a value, or the failure that says why
there is none. A pull is all or nothing. A backend that cannot be reached and a status that is no
success are failures of the network, whatever the body holds; a body that is not what was asked for
is a failure to decode.

A body comes from the client of the protocol as a text, or not at all. How its bytes become a text
is decided there.
-/

namespace RiskBoard

/-- Why a body could not be received, as the client of the protocol tells it. -/
structure BodyFault where
  /-- Whether the client counts it among its faults of decoding. -/
  isDecode : Bool
  detail : String
deriving DecidableEq

/-- The failure that a fault of the client amounts to. -/
def BodyFault.failure (fault : BodyFault) : Failure :=
  if fault.isDecode then .decode fault.detail else .network fault.detail

/-- What becomes of a request. -/
inductive PullOutcome where
  /-- There is no response. -/
  | unreachable (reason : String)
  | response (status : Nat) (body : Except BodyFault String)

namespace Pull

/-- The address of a value below the base of the pull addresses. -/
def address (base path : String) : String := s!"{base}/{path}"

/-! ### Status -/

/-- Whether a status says that the body is what was asked for. -/
def isSuccess (status : Nat) : Bool := 200 ≤ status && status ≤ 299

/-- The standard phrase for a status. -/
def reasonPhrase? : Nat → Option String
  | 100 => some "Continue"
  | 101 => some "Switching Protocols"
  | 102 => some "Processing"
  | 200 => some "OK"
  | 201 => some "Created"
  | 202 => some "Accepted"
  | 203 => some "Non Authoritative Information"
  | 204 => some "No Content"
  | 205 => some "Reset Content"
  | 206 => some "Partial Content"
  | 207 => some "Multi-Status"
  | 208 => some "Already Reported"
  | 226 => some "IM Used"
  | 300 => some "Multiple Choices"
  | 301 => some "Moved Permanently"
  | 302 => some "Found"
  | 303 => some "See Other"
  | 304 => some "Not Modified"
  | 305 => some "Use Proxy"
  | 307 => some "Temporary Redirect"
  | 308 => some "Permanent Redirect"
  | 400 => some "Bad Request"
  | 401 => some "Unauthorized"
  | 402 => some "Payment Required"
  | 403 => some "Forbidden"
  | 404 => some "Not Found"
  | 405 => some "Method Not Allowed"
  | 406 => some "Not Acceptable"
  | 407 => some "Proxy Authentication Required"
  | 408 => some "Request Timeout"
  | 409 => some "Conflict"
  | 410 => some "Gone"
  | 411 => some "Length Required"
  | 412 => some "Precondition Failed"
  | 413 => some "Payload Too Large"
  | 414 => some "URI Too Long"
  | 415 => some "Unsupported Media Type"
  | 416 => some "Range Not Satisfiable"
  | 417 => some "Expectation Failed"
  | 418 => some "I'm a teapot"
  | 421 => some "Misdirected Request"
  | 422 => some "Unprocessable Entity"
  | 423 => some "Locked"
  | 424 => some "Failed Dependency"
  | 425 => some "Too Early"
  | 426 => some "Upgrade Required"
  | 428 => some "Precondition Required"
  | 429 => some "Too Many Requests"
  | 431 => some "Request Header Fields Too Large"
  | 451 => some "Unavailable For Legal Reasons"
  | 500 => some "Internal Server Error"
  | 501 => some "Not Implemented"
  | 502 => some "Bad Gateway"
  | 503 => some "Service Unavailable"
  | 504 => some "Gateway Timeout"
  | 505 => some "HTTP Version Not Supported"
  | 506 => some "Variant Also Negotiates"
  | 507 => some "Insufficient Storage"
  | 508 => some "Loop Detected"
  | 510 => some "Not Extended"
  | 511 => some "Network Authentication Required"
  | _ => none

/-- A status with its phrase. -/
def statusText (status : Nat) : String :=
  toString status ++ " " ++ (reasonPhrase? status).getD "<unknown status code>"

/-! ### Values -/

/-- The value in the response from an address. -/
def value {α : Type} (url : String) (read : Json.Reader α) : PullOutcome → Except Failure α
  | .unreachable reason => .error (.network s!"GET {url}: {reason}")
  | .response status body =>
    if isSuccess status then
      match body with
      | .error fault => .error fault.failure
      | .ok text =>
        match Json.readText read text with
        | .ok v => .ok v
        | .error fault => .error (.decode s!"GET {url}: {fault.message}")
    else .error (.network (s!"GET {url}: API error: " ++ statusText status))

/-- The snapshot of a kind in its response; the points of forward exposure have to be accepted as a
series besides. -/
def snapshot (base : String) (kind : Kind) (outcome : PullOutcome) : Except Failure Snapshot :=
  let url := address base kind.name
  match kind with
  | .portfolio => (value url Portfolio.read outcome).map .portfolio
  | .risk => (value url Risk.read outcome).map .risk
  | .exposure => do
    let points ← value url ExposureSeries.readPoints outcome
    match ExposureSeries.ofPoints points with
    | .ok series => pure (.exposure series)
    | .error fault => throw fault.failure

/-- What the backend says of itself in its response. -/
def health (base : String) (outcome : PullOutcome) : Except Failure Health :=
  value (address base "health") Health.read outcome

end Pull

end RiskBoard
