import BlockPipeline.Address.Basic
import BlockPipeline.Address.Path

/-!
# Reading addresses

An address is read by the common rules for addresses on the web. What is read is brought into
one written form: the scheme and the host in small letters, no default port, no dot segments,
and escapes where a character may not stand for itself.

For the schemes of the web the number of slashes behind the colon does not matter, a
backslash is a slash, and there is a host. A file may do without a host and has no port. Any
other scheme has a host only behind two slashes; without a slash its path is taken as it is.
-/

namespace BlockPipeline

namespace Address

/-! ## Schemes -/

/-- What follows the colon of a scheme. -/
inductive SchemeKind where
  /-- An authority with a host that is a domain or a number. -/
  | web (port : Nat)
  | file
  | other
deriving DecidableEq

/-- The schemes with rules of their own. -/
def SchemeKind.ofName (scheme : String) : SchemeKind :=
  (([("http", .web 80), ("https", .web 443), ("ws", .web 80), ("wss", .web 443), ("ftp", .web 21),
    ("file", .file)] : List (String × SchemeKind)).lookup scheme).getD .other

/-- The control characters and the blank. -/
def isControlOrBlank (c : Char) : Bool := c.toNat ≤ 0x20

/-- The text without controls and blanks at its ends. -/
def trimmed (text : List Char) : List Char :=
  let front := text.dropWhile isControlOrBlank
  (front.reverse.dropWhile isControlOrBlank).reverse

/-- The scheme in front of the colon, and what follows the colon. -/
def splitScheme (text : List Char) : Option (String × List Char) :=
  let isPart (c : Char) : Bool := c.isAlphanum || c = '+' || c = '-' || c = '.'
  let front := text.takeWhile isPart
  match front, text.drop front.length with
  | first :: _, ':' :: rest =>
    if first.isAlpha then some (String.ofList (front.map Char.toLower), rest) else none
  | _, _ => none

/-! ## Authorities -/

/-- A character that ends an authority. -/
def endsAuthority (web : Bool) (c : Char) : Bool :=
  c = '/' || c = '?' || c = '#' || (web && c = '\\')

/-- The user whose name ends at the first colon. -/
def User.ofText (text : List Char) : User :=
  let isName (c : Char) : Bool := c ≠ ':'
  { name := String.ofList (encoded userSpecial (text.takeWhile isName))
    password := String.ofList (encoded userSpecial (text.dropWhile isName).tail) }

/-- The user in front of the last `@` of an authority, and what follows. Behind an `@` at the
very front a host has to follow. -/
def splitUser (web : Bool) (text : List Char) : Option (User × List Char) :=
  let authority := text.takeWhile fun c => !endsAuthority web c
  let behind := (authority.reverse.takeWhile (· ≠ '@')).reverse
  let front := authority.take (authority.length - behind.length - 1)
  let rest := text.drop (authority.length - behind.length)
  if !authority.contains '@' then some ({}, text)
  else if front.isEmpty && rest.head?.any (endsAuthority web) then none
  else some (User.ofText front, rest)

/-- The host up to the colon in front of the port, or to the end of the authority; a colon
between brackets is part of the host. -/
def splitHost (web inBrackets : Bool) : List Char → List Char × List Char
  | [] => ([], [])
  | c :: rest =>
    if endsAuthority web c || (c = ':' && !inBrackets) then ([], c :: rest)
    else
      let inside := if c = '[' then true else if c = ']' then false else inBrackets
      let (host, behind) := splitHost web inside rest
      (c :: host, behind)

/-- The port behind a host, if there is one, and what follows. A port is a number below 65536;
no digits stand for the default. -/
def splitPort? (text : List Char) : Option (Option Nat × List Char) :=
  match text with
  | ':' :: behind =>
    let digits := behind.takeWhile Char.isDigit
    let rest := behind.dropWhile Char.isDigit
    let n := digits.foldl (fun n c => n * 10 + (c.toNat - '0'.toNat)) 0
    if 65536 ≤ n || !rest.head?.all (endsAuthority true) then none
    else some (if digits.isEmpty then none else some n, rest)
  | rest => some (none, rest)

/-- The authority of an address and what follows it. Only a scheme that is none of the web does
without a host, and then without a user and a port. -/
def splitAuthority? (defaultPort : Option Nat) (text : List Char) :
    Option (Authority × List Char) := do
  let web := defaultPort.isSome
  let (user, behindUser) ← splitUser web text
  let (hostText, behindHost) := splitHost web false behindUser
  let (port, rest) ← splitPort? behindHost
  let port := if port = defaultPort then none else port
  if hostText.isEmpty then
    if web || !user.isEmpty || behindHost.head? = some ':' then failure
    return ({}, rest)
  let host ← if web then webHost? hostText else otherHost? hostText
  return ({ user := user, host := some host, port := port }, rest)

/-! ## Addresses -/

/-- A character of a path. -/
def isPathChar (c : Char) : Bool := c ≠ '?' && c ≠ '#'

/-- The text without the first character if that is a slash. -/
def withoutSlash (special : Bool) (text : List Char) : List Char :=
  match text with
  | c :: rest => if c = '/' || (special && c = '\\') then rest else text
  | [] => []

/-- Reads what follows the slashes of a scheme of the web. -/
def ofWeb? (scheme : String) (port : Nat) (text : List Char) : Option Address := do
  let (authority, rest) ← splitAuthority? (some port) text
  let path := pathParts true false (withoutSlash true (rest.takeWhile isPathChar))
  return { scheme := scheme, authority := some authority
           rest := String.ofList (pathText path ++ tailText true (rest.dropWhile isPathChar)) }

/-- The address of a file. Slashes at the front of the path count once, and a drive is one of
the own machine. -/
def ofPath (scheme : String) (host : Option Host) (path tail : List Char) : Address :=
  let parts := pathParts true true path
  let isLocal := parts.head?.any isDrive
  { scheme := scheme
    authority := some { host := if isLocal then none else host }
    rest := String.ofList ('/' :: (pathText parts).dropWhile (· = '/') ++ tailText true tail) }

/-- The text behind a slash at its front, if there is one. -/
def behindSlash? (text : List Char) : Option (List Char) :=
  match text.dropWhile isBreak with
  | c :: rest => if c = '/' || c = '\\' then some rest else none
  | [] => none

/-- Reads what follows the colon of a file's address, from which breaks are not yet removed. The
host may be left out, and the own machine goes without a name. -/
def ofFile? (scheme : String) (text : List Char) : Option Address := do
  let tail := withoutBreaks (text.dropWhile isPathChar)
  let path (text : List Char) : List Char := text.takeWhile isPathChar
  let withoutSlash (text : List Char) : List Char := (behindSlash? text).getD text
  match (behindSlash? text).bind behindSlash? with
  | some behind =>
    let hostText := withoutBreaks (behind.takeWhile fun c => !endsAuthority true c)
    let rest := behind.dropWhile fun c => !endsAuthority true c
    if hostText.isEmpty || isDrive hostText then return ofPath scheme none (path behind) tail
    let host ← webHost? hostText
    if host = .name "localhost" then return ofPath scheme none (path rest) tail
    return ofPath scheme (some host) (withoutSlash (path rest)) tail
  | none => return ofPath scheme none (withoutSlash (path text)) tail

/-- Reads what follows the colon of any other scheme. -/
def ofOther? (scheme : String) (text : List Char) : Option Address := do
  let path (text : List Char) : List Char :=
    pathText (pathParts false false (withoutSlash false (text.takeWhile isPathChar)))
  let tail := tailText false (text.dropWhile isPathChar)
  match text with
  | '/' :: '/' :: behind => do
    let (authority, rest) ← splitAuthority? none behind
    let path := if (rest.takeWhile isPathChar).isEmpty then [] else path rest
    return { scheme := scheme, authority := some authority, rest := String.ofList (path ++ tail) }
  | '/' :: _ =>
    return { scheme := scheme, authority := none, rest := String.ofList (path text ++ tail) }
  | _ =>
    let path := encoded [] (text.takeWhile isPathChar)
    return { scheme := scheme, authority := none, rest := String.ofList (path ++ tail) }

/-- Reads an absolute address. -/
def ofText? (text : String) : Option Address := do
  let full := trimmed text.toList
  let (scheme, rest) ← splitScheme (withoutBreaks full)
  match SchemeKind.ofName scheme with
  | .web port => ofWeb? scheme port (rest.dropWhile fun c => c = '/' || c = '\\')
  | .file => ofFile? scheme (full.dropWhile (· ≠ ':')).tail
  | .other => ofOther? scheme rest

end Address

end BlockPipeline
