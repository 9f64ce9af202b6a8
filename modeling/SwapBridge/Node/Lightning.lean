/-
  SwapBridge.Node.Lightning
  ─────────────────────────
  **THE LIGHTNING NODE BEHIND THE DAEMON.**

  The daemon stands alone or is attached to a node of one of two makes.  Which
  one is written as a connection string: parts divided by semicolons, each a
  key, an equals sign and a value.

    • keys are compared without blanks around them and in small letters,
    • of a key that is given twice the last value counts,
    • keys that nobody asks for are ignored.
-/
import SwapBridge.Text.Blank
import SwapBridge.Text.Split
import SwapBridge.Text.Decimal

namespace SwapBridge

inductive LightningNode where
  /-- The daemon is its own end of the Lightning payments. -/
  | standalone
  | lnd (host : String) (port : UInt16) (macaroonPath : String) (certificatePath : Option String)
  | cln (host : String) (port : UInt16) (certDir : String)
  deriving DecidableEq, Repr

namespace LightningNode

def isStandalone : LightningNode → Bool
  | .standalone => true
  | _ => false

end LightningNode

namespace ConnectionString

/-- The keys that a connection string is asked for. -/
inductive Key where
  | backend
  | server
  | macaroonPath
  | certificatePath
  | certDir
  deriving DecidableEq, Repr

def Key.name : Key → String
  | .backend => "type"
  | .server => "server"
  | .macaroonPath => "macaroonfilepath"
  | .certificatePath => "certfilepath"
  | .certDir => "certdir"

inductive Error where
  | unsupportedBackend (name : String)
  | missing (key : Key)
  /-- A part without an equals sign. -/
  | malformedPart (part : String)
  /-- A server that is no host with a port. -/
  | malformedServer (server : String)
  deriving DecidableEq, Repr

def Error.message : Error → String
  | .unsupportedBackend name => "unsupported lightning backend: " ++ name
  | .missing key => "connection string is missing `" ++ key.name ++ "`"
  | .malformedPart part => "invalid `connection string`: " ++ part
  | .malformedServer server => "invalid `server`: " ++ server

/-- A part as its key in small letters and its value, both without blanks around. -/
structure Setting where
  key : List Char
  value : List Char
  deriving DecidableEq, Repr

def Setting.read (part : List Char) : Except Error Setting :=
  match Text.cut? ['='] part with
  | some (key, value) => .ok ⟨Text.lowerAscii (Text.trim key), Text.trim value⟩
  | none => .error (.malformedPart (String.ofList part))

/-- The parts that say something. -/
def parts (cs : List Char) : List (List Char) :=
  ((Text.pieces ';' cs).map Text.trim).filter (!·.isEmpty)

/-- The value that counts for a key: the last one given. -/
def lookup (settings : List Setting) (key : Key) : Option String :=
  (settings.reverse.find? (·.key == key.name.toList)).map fun s => String.ofList s.value

def require (settings : List Setting) (key : Key) : Except Error String :=
  match lookup settings key with
  | some v => .ok v
  | none => .error (.missing key)

/-- A server without its scheme and without slashes at the end. -/
def authority (server : List Char) : List Char :=
  let rest := match Text.cut? "://".toList server with
    | some (_, rest) => rest
    | none => server
  Text.dropWhileEnd (· == '/') rest

/-- The host and the port of a server; the last colon divides them. -/
def readServer (server : String) : Except Error (String × UInt16) :=
  match Text.cutLast? ':' (authority server.toList) with
  | some (host, port) =>
    if host.isEmpty then .error (.malformedServer server)
    else match Decimal.readUInt16? (String.ofList port) with
      | some n => .ok (String.ofList host, n)
      | none => .error (.malformedServer server)
  | none => .error (.malformedServer server)

/-- The node that the settings describe. -/
def resolve (settings : List Setting) : Except Error LightningNode := do
  let backend ← require settings .backend
  -- of several faults the server's comes before that of the files
  if backend = "standalone" then return .standalone
  else if backend = "lnd-grpc" then
    let (host, port) ← readServer (← require settings .server)
    let macaroon ← require settings .macaroonPath
    return .lnd host port macaroon (lookup settings .certificatePath)
  else if backend = "clightning-grpc" then
    let (host, port) ← readServer (← require settings .server)
    let dir ← require settings .certDir
    return .cln host port dir
  else throw (.unsupportedBackend backend)

/-- Reads a connection string; a blank one stands for no node at all. -/
def read (s : String) : Except Error LightningNode :=
  let cs := Text.trim s.toList
  if cs.isEmpty then .ok .standalone
  else (parts cs).mapM Setting.read >>= resolve

end ConnectionString

end SwapBridge
