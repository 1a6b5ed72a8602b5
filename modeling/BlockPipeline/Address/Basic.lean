import BlockPipeline.Address.Host

/-!
# Addresses

An absolute address has a scheme, in most cases an authority, and a rest with the path. Its
written form is what it is shown as and what is sent to.

A request says who asks in a header and not in its address, so a user name is taken out of an
address before it is sent to, unless it cannot be read.
-/

namespace BlockPipeline

/-- Who asks, in the written form of an address. -/
structure Address.User where
  name : String := ""
  password : String := ""
deriving DecidableEq

/-- Whom to ask. -/
structure Address.Authority where
  user : Address.User := {}
  host : Option Address.Host := none
  /-- The port, unless it is the one of the scheme. -/
  port : Option Nat := none
deriving DecidableEq

/-- An absolute address in its written form. -/
structure Address where
  scheme : String
  authority : Option Address.Authority
  /-- The path and what follows it. -/
  rest : String
deriving DecidableEq

namespace Address

def User.isEmpty (u : User) : Bool := u.name == "" && u.password == ""

def User.text (u : User) : String :=
  if u.isEmpty then ""
  else u.name ++ (if u.password == "" then "" else ":" ++ u.password) ++ "@"

/-- Whether a user can be read and has something to say. -/
def User.isReadable (u : User) : Bool :=
  let isText (s : String) : Bool := (percentDecoded? s.toList).isSome
  isText u.name && (u.name != "" || isText u.password)

def Authority.text (a : Authority) : String :=
  let port := match a.port with
    | some port => ":" ++ toString port
    | none => ""
  a.user.text ++ ((a.host.map Host.text).getD "") ++ port

/-- The text of an address. -/
def text (a : Address) : String :=
  let authority := match a.authority with
    | some authority => "//" ++ authority.text
    | none => ""
  a.scheme ++ ":" ++ authority ++ a.rest

/-- The host of an address, if it has one. -/
def host? (a : Address) : Option Host := a.authority.bind (·.host)

/-- The address without its user, if the user can be read. -/
def withoutUser (a : Address) : Address :=
  { a with authority := a.authority.map fun authority =>
      if authority.user.isReadable then { authority with user := {} } else authority }

/-! ## Where requests reach -/

/-- Characters that may stand in a host and cannot be sent in a request. -/
def unsendable : List Char := ['"', '\x60', '\x7b', '\x7d']

/-- How many bytes an address may have that is sent to. -/
def sendableLimit : Nat := 65534

/-- Whether a request can be sent there: over the hypertext protocol, and to a host and at a
length that a request can carry. -/
def isSendable (a : Address) : Bool :=
  (a.scheme == "http" || a.scheme == "https") && a.text.utf8ByteSize ≤ sendableLimit &&
    a.host?.any fun host => !host.text.toList.any unsendable.contains

end Address

end BlockPipeline
