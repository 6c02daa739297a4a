import DocStore.Error
import DocStore.Json.Parser
import DocStore.Text.Blank

/-! # Responses

What a response without success says. The message is looked for in the body, and if the body is
blank it is the standard reason of the status.
-/

namespace DocStore

structure Response where
  status : Nat
  body : String
  deriving DecidableEq, Repr

/-- The standard reasons of statuses. -/
def standardReasons : List (Nat × String) :=
  [(100, "Continue"), (101, "Switching Protocols"), (102, "Processing"), (103, "Early Hints"),
    (200, "OK"), (201, "Created"), (202, "Accepted"), (203, "Non Authoritative Information"),
    (204, "No Content"), (205, "Reset Content"), (206, "Partial Content"),
    (207, "Multi-Status"), (208, "Already Reported"), (226, "IM Used"),
    (300, "Multiple Choices"), (301, "Moved Permanently"), (302, "Found"), (303, "See Other"),
    (304, "Not Modified"), (305, "Use Proxy"), (307, "Temporary Redirect"),
    (308, "Permanent Redirect"),
    (400, "Bad Request"), (401, "Unauthorized"), (402, "Payment Required"), (403, "Forbidden"),
    (404, "Not Found"), (405, "Method Not Allowed"), (406, "Not Acceptable"),
    (407, "Proxy Authentication Required"), (408, "Request Timeout"), (409, "Conflict"),
    (410, "Gone"), (411, "Length Required"), (412, "Precondition Failed"),
    (413, "Payload Too Large"), (414, "URI Too Long"), (415, "Unsupported Media Type"),
    (416, "Range Not Satisfiable"), (417, "Expectation Failed"), (418, "I'm a teapot"),
    (421, "Misdirected Request"), (422, "Unprocessable Entity"), (423, "Locked"),
    (424, "Failed Dependency"), (425, "Too Early"), (426, "Upgrade Required"),
    (428, "Precondition Required"), (429, "Too Many Requests"),
    (431, "Request Header Fields Too Large"), (451, "Unavailable For Legal Reasons"),
    (500, "Internal Server Error"), (501, "Not Implemented"), (502, "Bad Gateway"),
    (503, "Service Unavailable"), (504, "Gateway Timeout"), (505, "HTTP Version Not Supported"),
    (506, "Variant Also Negotiates"), (507, "Insufficient Storage"), (508, "Loop Detected"),
    (510, "Not Extended"), (511, "Network Authentication Required")]

def reason (status : Nat) : String :=
  (standardReasons.lookup status).getD "request failed"

/-- The number of a body's characters that a message quotes. -/
def quotedLength : Nat := 200

/-- The body itself as a message, or the reason of the status if the body is blank. -/
def bodyMessage (status : Nat) (body : String) : String :=
  let trimmed := trimWhere isBlank body.toList
  if trimmed.isEmpty then reason status else String.ofList (trimmed.take quotedLength)

/-- The message in a value: in its member `error` if it has one, else in the value itself, which
    is the message or has it as its member `message`. -/
def messageIn? (value : Json) : Option String :=
  match (value.get? "error").getD value with
  | .string text => some text
  | other => (other.get? "message").bind Json.asString?

/-- The message of a response without success. -/
def failureMessage (status : Nat) (body : String) : String :=
  ((Json.parse? body).bind messageIn?).getD (bodyMessage status body)

namespace Response

def isSuccess (response : Response) : Bool :=
  200 ≤ response.status && response.status < 300

def failure (response : Response) : Error :=
  .transport response.status (failureMessage response.status response.body)

def json (response : Response) : Except Error Json :=
  match Json.parse? response.body with
  | some value => .ok value
  | none => .error (.http .malformedBody)

end Response

end DocStore
