/-!
# Status codes

The three-digit code of an answer, the phrase that goes with it, and what the code says about the
body and about where to ask instead.
-/

namespace Matchmaking.Net

/-- The code that an answer starts with. -/
structure Status where
  code : Nat
  deriving DecidableEq, Repr

namespace Status

def phrases : List (Nat × String) := [
  (100, "Continue"),
  (101, "Switching Protocols"),
  (102, "Processing"),
  (103, "Early Hints"),
  (200, "OK"),
  (201, "Created"),
  (202, "Accepted"),
  (203, "Non Authoritative Information"),
  (204, "No Content"),
  (205, "Reset Content"),
  (206, "Partial Content"),
  (207, "Multi-Status"),
  (208, "Already Reported"),
  (226, "IM Used"),
  (300, "Multiple Choices"),
  (301, "Moved Permanently"),
  (302, "Found"),
  (303, "See Other"),
  (304, "Not Modified"),
  (305, "Use Proxy"),
  (307, "Temporary Redirect"),
  (308, "Permanent Redirect"),
  (400, "Bad Request"),
  (401, "Unauthorized"),
  (402, "Payment Required"),
  (403, "Forbidden"),
  (404, "Not Found"),
  (405, "Method Not Allowed"),
  (406, "Not Acceptable"),
  (407, "Proxy Authentication Required"),
  (408, "Request Timeout"),
  (409, "Conflict"),
  (410, "Gone"),
  (411, "Length Required"),
  (412, "Precondition Failed"),
  (413, "Payload Too Large"),
  (414, "URI Too Long"),
  (415, "Unsupported Media Type"),
  (416, "Range Not Satisfiable"),
  (417, "Expectation Failed"),
  (418, "I'm a teapot"),
  (421, "Misdirected Request"),
  (422, "Unprocessable Entity"),
  (423, "Locked"),
  (424, "Failed Dependency"),
  (425, "Too Early"),
  (426, "Upgrade Required"),
  (428, "Precondition Required"),
  (429, "Too Many Requests"),
  (431, "Request Header Fields Too Large"),
  (451, "Unavailable For Legal Reasons"),
  (500, "Internal Server Error"),
  (501, "Not Implemented"),
  (502, "Bad Gateway"),
  (503, "Service Unavailable"),
  (504, "Gateway Timeout"),
  (505, "HTTP Version Not Supported"),
  (506, "Variant Also Negotiates"),
  (507, "Insufficient Storage"),
  (508, "Loop Detected"),
  (510, "Not Extended"),
  (511, "Network Authentication Required")]

def phrase? (s : Status) : Option String := phrases.lookup s.code

def text (s : Status) : String :=
  toString s.code ++ " " ++ s.phrase?.getD "<unknown status code>"

/-- Whether a code can stand in an answer: it has three digits. -/
def isReadable (s : Status) : Bool := 100 ≤ s.code && s.code < 1000

def isSuccess (s : Status) : Bool := 200 ≤ s.code && s.code < 300

/-- Whether a code only announces that the answer proper is still to come. -/
def isInterim (s : Status) : Bool := 100 ≤ s.code && s.code < 200 && s.code != 101

def carriesBody (s : Status) : Bool :=
  !(s.code < 200 || s.code == 204 || s.code == 304)

/-- How a request is made again at another place. -/
inductive Redirect where
  /-- As a plain look-up, without its body. -/
  | lookUp
  /-- As it was. -/
  | again
  deriving DecidableEq, Repr

/-- How a request is made again if the answer names another place. -/
def redirect? (s : Status) : Option Redirect :=
  if s.code = 301 ∨ s.code = 302 ∨ s.code = 303 then some .lookUp
  else if s.code = 307 ∨ s.code = 308 then some .again
  else none

end Status

end Matchmaking.Net
