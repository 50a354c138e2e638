import LiquidityClient.Json.Reader
import LiquidityClient.Text.Utf8

/-!
# Requests and responses of a web service

A request with an optional JSON body, and what comes back : a status and a body that may have broken
off.
-/

namespace LiquidityClient

/-- What a request does. -/
inductive HttpMethod where
  | get
  | post
  | delete
  deriving DecidableEq, Repr

/-- The name of the method. -/
def HttpMethod.name : HttpMethod → String
  | .get => "GET"
  | .post => "POST"
  | .delete => "DELETE"

/-- A request to a service. -/
structure HttpRequest where
  method : HttpMethod
  /-- The path, with the query. -/
  path : String
  body : Option JsonValue := none

/-- The answer of a service. -/
structure HttpResponse where
  status : Nat
  /-- The body; nothing if it broke off. -/
  body : Option Bytes
  deriving DecidableEq, Repr

namespace HttpStatus

/-- Does the status tell of success? -/
def isSuccess (status : Nat) : Bool :=
  200 ≤ status && status < 300

/-- The standard reasons. -/
def reasons : List (Nat × String) :=
  [(100, "Continue"), (101, "Switching Protocols"), (102, "Processing"), (200, "OK"),
    (201, "Created"), (202, "Accepted"), (203, "Non Authoritative Information"),
    (204, "No Content"), (205, "Reset Content"), (206, "Partial Content"), (207, "Multi-Status"),
    (208, "Already Reported"), (226, "IM Used"), (300, "Multiple Choices"),
    (301, "Moved Permanently"), (302, "Found"), (303, "See Other"), (304, "Not Modified"),
    (305, "Use Proxy"), (307, "Temporary Redirect"), (308, "Permanent Redirect"),
    (400, "Bad Request"), (401, "Unauthorized"), (402, "Payment Required"), (403, "Forbidden"),
    (404, "Not Found"), (405, "Method Not Allowed"), (406, "Not Acceptable"),
    (407, "Proxy Authentication Required"), (408, "Request Timeout"), (409, "Conflict"),
    (410, "Gone"), (411, "Length Required"), (412, "Precondition Failed"),
    (413, "Payload Too Large"), (414, "URI Too Long"), (415, "Unsupported Media Type"),
    (416, "Range Not Satisfiable"), (417, "Expectation Failed"), (418, "I'm a teapot"),
    (421, "Misdirected Request"), (422, "Unprocessable Entity"), (423, "Locked"),
    (424, "Failed Dependency"), (425, "Too Early"), (426, "Upgrade Required"),
    (428, "Precondition Required"), (429, "Too Many Requests"),
    (431, "Request Header Fields Too Large"), (451, "Unavailable For Legal Reasons"),
    (500, "Internal Server Error"), (501, "Not Implemented"), (502, "Bad Gateway"),
    (503, "Service Unavailable"), (504, "Gateway Timeout"), (505, "HTTP Version Not Supported"),
    (506, "Variant Also Negotiates"), (507, "Insufficient Storage"), (508, "Loop Detected"),
    (510, "Not Extended"), (511, "Network Authentication Required")]

/-- The number of a status with its reason. -/
def text (status : Nat) : String :=
  Decimal.ofNat status ++ " " ++ (reasons.lookup status).getD "<unknown status code>"

end HttpStatus

namespace HttpResponse

/-- The body as a text. There is none with a status of 304, and none that can be shown if the body
broke off or is no text. -/
def bodyText (response : HttpResponse) : String :=
  if response.status = 304 then "" else (response.body.bind Utf8.decode?).getD ""

/-- The document in the body. -/
def document? (response : HttpResponse) : Option JsonValue :=
  response.body.bind fun body => (Utf8.decode? body).bind JsonValue.parse?

end HttpResponse

end LiquidityClient
