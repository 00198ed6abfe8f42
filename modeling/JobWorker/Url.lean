/-
Addresses of resources.

An address names a scheme and, for services on the network, a host.  Reading puts it into its usual
form: scheme and host in lower case, the port only if it is not the usual one, the path without dots,
and what may not stand for itself escaped.
-/
import JobWorker.Url.Host
import JobWorker.Url.Login
import JobWorker.Url.Path

namespace JobWorker

/-- Where a resource is to be found. -/
structure Url.Authority where
  login : Url.Login
  /-- The host; it is empty if none is named. -/
  host : List Char
  /-- The port, if it is not the usual one. -/
  port : Option Nat
  deriving DecidableEq, Repr

/-- The address of a resource. -/
structure Url where
  scheme : String
  /-- Where the resource is to be found, if the address has a place for that. -/
  authority : Option Url.Authority
  path : List Char
  query : Option (List Char)
  fragment : Option (List Char)
  deriving DecidableEq, Repr

namespace Url

/-- The schemes of services on the network, and their usual ports. -/
def usualPorts : List (String × Nat) :=
  [("http", 80), ("https", 443), ("ws", 80), ("wss", 443), ("ftp", 21)]

/-- What is escaped in a query. -/
def queryReserved : List Char := [' ', '"', '#', '<', '>']

/-- What is escaped in the query of a service on the network and of a file. -/
def ownQueryReserved : List Char := '\'' :: queryReserved

/-- What is escaped in a fragment. -/
def fragmentReserved : List Char := [' ', '"', '<', '>', '\x60']

/-! ### Cutting an address up -/

/-- The text without what may stand around it and without line breaks and tabs. -/
def clean (text : List Char) : List Char :=
  let outer (c : Char) : Bool := c.toNat ≤ 0x20
  ((text.dropWhile outer).reverse.dropWhile outer).reverse.filter fun c =>
    c ≠ '\t' && c ≠ '\n' && c ≠ '\r'

/-- The text before the first of some characters, and the text behind it. -/
def cut (isMark : Char → Bool) (text : List Char) : List Char × Option (List Char) :=
  match text.dropWhile fun c => !isMark c with
  | [] => (text, none)
  | _ :: behind => (text.takeWhile fun c => !isMark c, some behind)

/-- The scheme in lower case, and the text behind its colon. -/
def cutScheme (text : List Char) : Option (String × List Char) :=
  match cut (· = ':') text with
  | (c :: scheme, some rest) =>
    if c.isAlpha ∧ scheme.all fun c => c.isAlphanum || c = '+' || c = '-' || c = '.' then
      some (String.ofList ((c :: scheme).map Char.toLower), rest)
    else none
  | _ => none

/-- The text before the last sign that ends a user, if there is one, and the text behind it. -/
def cutLogin (text : List Char) : Option (List Char) × List Char :=
  match text.reverse.dropWhile (· ≠ '@') with
  | [] => (none, text)
  | _ :: before => (some before.reverse, (text.reverse.takeWhile (· ≠ '@')).reverse)

/-- The host and the port, which a colon outside of brackets begins. -/
def cutPort : Bool → List Char → List Char × Option (List Char)
  | _, [] => ([], none)
  | inside, c :: rest =>
    if c = ':' ∧ ¬inside then ([], some rest)
    else
      let (host, port) := cutPort (c = '[' || inside && c != ']') rest
      (c :: host, port)

/-- The port that digits name, where the usual one and none are the same. -/
def port? (usual : Option Nat) : List Char → Option (Option Nat)
  | [] => some none
  | digits => do
    let n ← Decimal.nat? digits
    if 65535 < n then none else if usual = some n then some none else some (some n)

/-! ### Reading -/

/-- A text with every backslash as a slash. -/
def slashed (text : List Char) : List Char := text.map fun c => if c = '\\' then '/' else c

/-- The usual form of the path behind an authority, which may be missing. -/
def pathBehind : List Char → List Char
  | [] => []
  | '/' :: path => Path.text false path
  | path => Path.text false path

/-- Reads an authority and the path behind it. -/
def readAuthority? (readHost? : List Char → Option (List Char)) (usual : Option Nat)
    (text : List Char) : Option (Authority × List Char) := do
  let (user, place) := cutLogin (text.takeWhile (· ≠ '/'))
  let login := (user.map Login.read).getD Login.none
  let (host, port) := cutPort false place
  if host = [] ∧ (login ≠ Login.none ∨ port.isSome ∨ user = some []) then none
  else
    let port := port.getD []
    let behind := port.dropWhile Char.isDigit
    -- whatever follows a port is the beginning of a path
    if behind.head?.all (· = '\\') then
      let host ← readHost? host
      let port ← port? usual (port.takeWhile Char.isDigit)
      some (⟨login, host, port⟩, pathBehind (behind ++ text.dropWhile (· ≠ '/')))
    else none

/-- Reads the part between the scheme and the query of a service on the network. -/
def readNetwork? (usual : Nat) (text : List Char) : Option (Authority × List Char) := do
  let (authority, path) ← readAuthority? Host.name? (some usual) ((slashed text).dropWhile (· = '/'))
  some (authority, if path = [] then ['/'] else path)

/-- The host of this computer, which files need not name. -/
def localHost : List Char := "localhost".toList

/-- Reads the part between the scheme and the query of a file.  A file on a drive is on this computer,
whatever host is named. -/
def readFile? (text : List Char) : Option (Authority × List Char) :=
  let here : Authority := ⟨Login.none, [], none⟩
  match slashed text with
  | '/' :: '/' :: text =>
    let host := text.takeWhile (· ≠ '/')
    if host = [] ∨ Path.isDrive host then some (here, Path.text true text)
    else do
      let name ← Host.name? host
      let path := text.drop host.length
      if name = localHost then some (here, Path.text true path)
      else
        let path := path.drop 1
        some (if Path.isOnDrive path then here else { here with host := name }, Path.text true path)
  | '/' :: path | path => some (here, Path.text true path)

/-- Reads the part between the scheme and the query of anything else. -/
def readOther? (text : List Char) : Option (Option Authority × List Char) :=
  match text with
  | '/' :: '/' :: text => (readAuthority? Host.opaque? none text).map fun (a, path) => (some a, path)
  | '/' :: path =>
    -- two slashes would begin an authority
    match Path.text false path with
    | '/' :: '/' :: path => some (none, '/' :: '.' :: '/' :: '/' :: path)
    | path => some (none, path)
  | text => some (none, Percent.encode [] text)

/-- Reads an address. -/
def read? (text : String) : Option Url := do
  let (scheme, text) ← cutScheme (clean text.toList)
  let (text, fragment) := cut (· = '#') text
  let (text, query) := cut (· = '?') text
  let fragment := fragment.map (Percent.encode fragmentReserved)
  if scheme = "file" then
    let (authority, path) ← readFile? text
    let query := query.map (Percent.encode ownQueryReserved)
    return { scheme, authority := some authority, path, query, fragment }
  else match usualPorts.lookup scheme with
  | some usual => do
    let (authority, path) ← readNetwork? usual text
    let query := query.map (Percent.encode ownQueryReserved)
    return { scheme, authority := some authority, path, query, fragment }
  | none => do
    let (authority, path) ← readOther? text
    let query := query.map (Percent.encode queryReserved)
    return { scheme, authority, path, query, fragment }

/-! ### What an address is good for -/

/-- Whether an address names a host. -/
def hasHost (u : Url) : Bool := u.authority.any fun a => a.host ≠ []

/-- Whether an address is that of a service of the web. -/
def isWeb (u : Url) : Bool := u.scheme = "http" || u.scheme = "https"

/-- The user and the password that go with a request. -/
def login? (u : Url) : Option (String × Option String) := u.authority.bind (·.login.texts?)

/-- An address without the user and the password that go with a request. -/
def withoutLogin (u : Url) : Url :=
  match u.login? with
  | none => u
  | some _ => { u with authority := u.authority.map fun a => { a with login := Login.none } }

/-! ### Writing -/

/-- The text of an authority. -/
def Authority.text (a : Authority) : List Char :=
  '/' :: '/' :: a.login.text ++ a.host ++ (a.port.map fun (n : Nat) => ':' :: Decimal.intText n).getD []

/-- The text of an address. -/
def text (u : Url) : String :=
  u.scheme ++ ":" ++ String.ofList
    ((u.authority.map Authority.text).getD [] ++ u.path ++ (u.query.map ('?' :: ·)).getD [] ++
      (u.fragment.map ('#' :: ·)).getD [])

/-! ### Requests -/

/-- The greatest number of characters in an address that a request can be sent to. -/
def greatestLength : Nat := 65534

/-- The signs that a name may have but no request can be sent to. -/
def unsendable : List Char := ['"', '\x60', '\x7b', '\x7d']

/-- Whether a request can be sent to an address. -/
def isSendable (u : Url) : Bool :=
  !(u.authority.any fun a => a.host.any unsendable.contains) && u.text.length ≤ greatestLength

end Url

end JobWorker
