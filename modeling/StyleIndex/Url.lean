/-
URLs, as far as an editor uses them to name documents. `Url.parse?` normalises what it reads: the scheme in lower case, the
host in its one form, dot segments removed, blanks and non-ASCII characters percent-encoded. Escapes that are there already
stay as they are, so two URLs may differ and mean the same file.
-/
import StyleIndex.Registry
import StyleIndex.Text.Blank
import StyleIndex.Url.Host
import StyleIndex.Url.Path

namespace StyleIndex

/-- what stands between the two slashes and the path -/
structure Url.Authority where
  /-- a user name, and a password behind a colon -/
  user : List Char
  host : Url.Host
  port : Option Nat
deriving DecidableEq, Repr

structure Url where
  scheme : List Char
  authority : Option Url.Authority
  path : List Char
  query : Option (List Char)
  fragment : Option (List Char)
deriving DecidableEq, Repr

namespace Url

/-! ## Writing -/

/-- the authority of this machine -/
def Authority.here : Authority := ⟨[], .name [], none⟩

def Authority.text (a : Authority) : List Char :=
  (if a.user.isEmpty then [] else a.user ++ ['@']) ++ a.host.text ++
    a.port.elim [] fun port => ':' :: Nat.toDigits 10 port

/-- what stands before the path. A path that starts with two slashes would be taken for an authority where there is
none, so a dot segment goes before it. -/
def beforePath (u : Url) : List Char :=
  match u.authority with
  | some a => '/' :: '/' :: a.text
  | none => if ['/', '/'].isPrefixOf u.path then ['/', '.'] else []

/-- a URL as text -/
def text (u : Url) : FileId :=
  String.ofList
    (u.scheme ++ ':' :: u.beforePath ++ u.path ++
      (u.query.elim [] fun query => '?' :: query) ++ (u.fragment.elim [] fun fragment => '#' :: fragment))

/-- the path of a URL as text -/
def pathText (u : Url) : String :=
  String.ofList u.path

/-! ## Schemes -/

/-- the usual ports of the well-known schemes, the one for files apart -/
def usualPort? (scheme : List Char) : Option Nat :=
  if scheme = "http".toList || scheme = "ws".toList then some 80
  else if scheme = "https".toList || scheme = "wss".toList then some 443
  else if scheme = "ftp".toList then some 21
  else none

def fileScheme : List Char := "file".toList

/-- the well-known schemes, which always have a path -/
def isSpecial (scheme : List Char) : Bool :=
  scheme = fileScheme || (usualPort? scheme).isSome

/-- the scheme of a URL and what stands behind the colon -/
def scheme? (text : List Char) : Option (List Char × List Char) :=
  let run := text.takeWhile (· ≠ ':')
  match run, text.drop run.length with
  | c :: cs, ':' :: rest =>
    if c.isAlpha && cs.all fun c => c.isAlphanum || c = '+' || c = '-' || c = '.' then
      some (run.map Char.toLower, rest)
    else none
  | _, _ => none

/-! ## Reading -/

/-- blanks and controls around a URL do not count, nor do tabs and line ends inside -/
def clean (text : List Char) : List Char :=
  let isEdge (c : Char) : Bool := c.toNat ≤ 0x20
  (Text.dropTrailing isEdge (text.dropWhile isEdge)).filter fun c => c ≠ '\t' && c ≠ '\n' && c ≠ '\r'

/-- cuts a text at the first character of a kind; the second part is what stands behind it, if there is one -/
def cutAt (p : Char → Bool) (text : List Char) : List Char × Option (List Char) :=
  let before := text.takeWhile fun c => !p c
  match text.drop before.length with
  | [] => (before, none)
  | _ :: after => (before, some after)

/-- cuts off a fragment and a query -/
def splitTail (text : List Char) : List Char × Option (List Char) × Option (List Char) :=
  let (body, fragment) := cutAt (· = '#') text
  let (path, query) := cutAt (· = '?') body
  (path, query, fragment)

/-- a user name and maybe a password, both escaped; an empty password is left out with its colon -/
def userText (text : List Char) : List Char :=
  let (name, password) := cutAt (· = ':') text
  encodeText keepsInUserInfo name ++
    match password with
    | none => []
    | some password => if password.isEmpty then [] else ':' :: encodeText keepsInUserInfo password

/-- the user part before the last at sign, if there is one, and what stands behind it -/
def splitUser (text : List Char) : Option (List Char) × List Char :=
  let host := (text.reverse.takeWhile (· ≠ '@')).reverse
  if host.length = text.length then (none, text) else (some (text.take (text.length - host.length - 1)), host)

/-- the host and the port behind its colon; colons between brackets do not count -/
def splitPort : Bool → List Char → List Char × Option (List Char)
  | _, [] => ([], none)
  | inBrackets, c :: rest =>
    if c = ':' && !inBrackets then ([], some rest)
    else
      let (host, port) := splitPort (if c = '[' then true else if c = ']' then false else inBrackets) rest
      (c :: host, port)

/-- the first number that is no port -/
def portLimit : Nat := 65536

/-- a port; the usual one and none at all are the same -/
def port? (usual : Option Nat) (digits : List Char) : Option (Option Nat) :=
  (number? 10 digits).bind fun port =>
    if portLimit ≤ port then none
    else some (if digits.isEmpty || usual = some port then none else some port)

/-- an authority; a user or a port needs a host -/
def authority? (scheme text : List Char) : Option Authority := do
  let (user, rest) := splitUser text
  let (name, digits) := splitPort false rest
  let host ← if isSpecial scheme then Host.special? name else Host.verbatim? name
  let port ← digits.elim (some none) (port? (usualPort? scheme))
  let needsHost := user.elim false (· ≠ [':']) || digits.isSome
  if host = .name [] && needsHost then none else return ⟨user.elim [] userText, host, port⟩

/-- cuts an authority off its path, which starts with a slash -/
def splitAuthority (special : Bool) (text : List Char) : List Char × List Char :=
  let authority := text.takeWhile fun c => !isSlash special c
  (authority, text.drop authority.length)

/-- a URL of a well-known scheme other than files behind its colon -/
def parseSpecial? (scheme text : List Char) : Option (Authority × List Char) :=
  let (authority, path) := splitAuthority true (text.dropWhile (isSlash true))
  (authority? scheme authority).map fun authority => (authority, pathOf (segments true (path.drop 1)))

/-- the host of a file URL; this machine may be named or not -/
def fileHost? (name : List Char) : Option Host :=
  if name.isEmpty then some (.name [])
  else (Host.special? name).map fun host => if host.isLocal then .name [] else host

/-- a file URL behind its colon. A drive letter is no host, and a path that starts with one has none. -/
def parseFile? (text : List Char) : Option (Authority × List Char) :=
  match text with
  | a :: b :: rest =>
    if isSlash true a && isSlash true b then
      let (name, path) := splitAuthority true rest
      if isDriveLetter name then some (.here, filePathOf (segments true rest))
      else
        (fileHost? name).map fun host =>
          if host.isLocal then (.here, filePathOf (segments true path))
          else
            let parts := segments true (path.drop 1)
            (if namesDrive parts then .here else ⟨[], host, none⟩, filePathOf parts)
    else some (.here, filePathOf (segments true (if isSlash true a then b :: rest else text)))
  | text => some (.here, filePathOf (segments true (text.dropWhile (isSlash true))))

/-- a URL of any other scheme behind its colon -/
def parseOther? (scheme text : List Char) : Option (Option Authority × List Char) :=
  match text with
  | '/' :: '/' :: rest =>
    let (authority, path) := splitAuthority false rest
    (authority? scheme authority).map fun authority =>
      (some authority, if path.isEmpty then [] else pathOf (segments false (path.drop 1)))
  | '/' :: rest => some (none, pathOf (segments false rest))
  | text => some (none, encodeText keepsOpaque text)

/-- the URL that a text writes -/
def parse? (text : String) : Option Url := do
  let (scheme, rest) ← scheme? (clean text.toList)
  let (body, query, fragment) := splitTail rest
  let query := query.map (encodeText (if isSpecial scheme then keepsInSpecialQuery else keepsInQuery))
  let fragment := fragment.map (encodeText keepsInFragment)
  if scheme = fileScheme then
    let (authority, path) ← parseFile? body
    return ⟨scheme, some authority, path, query, fragment⟩
  else if isSpecial scheme then
    let (authority, path) ← parseSpecial? scheme body
    return ⟨scheme, some authority, path, query, fragment⟩
  else
    let (authority, path) ← parseOther? scheme body
    return ⟨scheme, authority, path, query, fragment⟩

end Url
end StyleIndex
