/-
  SwapBridge.Release.Server
  ─────────────────────────
  **WHERE RELEASES COME FROM.**

  A server names the latest version and hands out archives, or refuses with a
  status.  Its answers are prepared; the last one of a kind is given again and
  again.
-/
import SwapBridge.Release.Target
import SwapBridge.Text.Decimal

namespace SwapBridge.Release

/-- What the status codes of web servers mean. -/
def reasons : List (Nat × String) :=
  [(100, "Continue"), (101, "Switching Protocols"), (102, "Processing"), (103, "Early Hints"),
    (200, "OK"), (201, "Created"), (202, "Accepted"), (203, "Non Authoritative Information"),
    (204, "No Content"), (205, "Reset Content"), (206, "Partial Content"), (207, "Multi-Status"),
    (208, "Already Reported"), (226, "IM Used"), (300, "Multiple Choices"),
    (301, "Moved Permanently"), (302, "Found"), (303, "See Other"), (304, "Not Modified"),
    (305, "Use Proxy"), (307, "Temporary Redirect"), (308, "Permanent Redirect"),
    (400, "Bad Request"), (401, "Unauthorized"), (402, "Payment Required"), (403, "Forbidden"),
    (404, "Not Found"), (405, "Method Not Allowed"), (406, "Not Acceptable"),
    (407, "Proxy Authentication Required"), (408, "Request Timeout"), (409, "Conflict"),
    (410, "Gone"), (411, "Length Required"), (412, "Precondition Failed"),
    (413, "Payload Too Large"), (414, "URI Too Long"), (415, "Unsupported Media Type"),
    (416, "Range Not Satisfiable"), (417, "Expectation Failed"), (418, "I'm a teapot"),
    (421, "Misdirected Request"), (422, "Unprocessable Entity"), (423, "Locked"),
    (424, "Failed Dependency"), (425, "Too Early"), (426, "Upgrade Required"),
    (428, "Precondition Required"), (429, "Too Many Requests"),
    (431, "Request Header Fields Too Large"), (451, "Unavailable For Legal Reasons"),
    (500, "Internal Server Error"), (501, "Not Implemented"), (502, "Bad Gateway"),
    (503, "Service Unavailable"), (504, "Gateway Timeout"), (505, "HTTP Version Not Supported"),
    (506, "Variant Also Negotiates"), (507, "Insufficient Storage"), (508, "Loop Detected"),
    (510, "Not Extended"), (511, "Network Authentication Required")]

/-- A status that is no success, and the address it was given for. -/
structure Refusal where
  status : Nat
  address : String
  deriving DecidableEq, Repr

def Refusal.message (r : Refusal) : String :=
  "release server answered " ++ Decimal.write r.status ++ " " ++
    (reasons.lookup r.status).getD "<unknown status code>" ++ " for " ++ r.address

structure Server where
  latest : List (Except Refusal String) := []
  archives : List (Except Refusal (List UInt8)) := []
  /-- Which archives were asked for. -/
  fetched : List (String × Target) := []

namespace Server

/-- What remains of prepared answers after one; the last one stays. -/
def afterOne {α : Type} : List α → List α
  | _ :: second :: rest => second :: rest
  | last => last

/-- The latest version; nothing where the server does not answer at all. -/
def latestVersion (s : Server) : Option (Except Refusal String) × Server :=
  (s.latest.head?, { s with latest := afterOne s.latest })

/-- The archive of a version for a target. -/
def fetch (version : String) (t : Target) (s : Server) :
    Option (Except Refusal (List UInt8)) × Server :=
  (s.archives.head?,
    { s with archives := afterOne s.archives, fetched := s.fetched ++ [(version, t)] })

end Server

end SwapBridge.Release
