import ZoneSync.Url.Host

/-!
# URLs

A text is read into the parts of a URL, each in its normal form: a scheme and a host in lower case,
no port that the scheme implies, no dot segments in the path, and percent signs for characters that
a part may not hold. The normal form of a URL is written by `Url.render`.
-/

namespace ZoneSync

/-- Who is asked, and where. -/
structure Url.Authority where
  user : List Char
  password : Option (List Char)
  host : List Char
  port : Option Nat
  deriving DecidableEq, Repr

structure Url where
  scheme : List Char
  authority : Option Url.Authority
  path : List Char
  query : Option (List Char)
  fragment : Option (List Char)
  deriving DecidableEq, Repr

namespace Url

open Text

/-! ### Writing -/

def Authority.render (authority : Authority) : List Char :=
  let password := authority.password.elim [] (':' :: ·)
  let user := authority.user ++ password
  (if user.isEmpty then [] else user ++ ['@']) ++ authority.host ++
    authority.port.elim [] fun port => ':' :: Nat.toDigits 10 port

/-- The text of a URL. A path that would be taken for an authority is kept apart by a dot. -/
def render (url : Url) : String :=
  let place := match url.authority with
    | some authority => ['/', '/'] ++ authority.render
    | none => if ['/', '/'].isPrefixOf url.path then ['/', '.'] else []
  String.ofList <| url.scheme ++ [':'] ++ place ++ url.path ++
    url.query.elim [] ('?' :: ·) ++ url.fragment.elim [] ('#' :: ·)

/-- The URL as it is shown: nobody learns a user or a password from it. -/
def withoutUser (url : Url) : Url :=
  { url with authority := url.authority.map ({ · with user := [], password := none }) }

/-! ### Schemes -/

/-- The port that a scheme implies. -/
def defaultPort? (scheme : List Char) : Option Nat :=
  let known := [("http", 80), ("ws", 80), ("https", 443), ("wss", 443), ("ftp", 21)]
  known.lookup (String.ofList scheme)

def isFile (scheme : List Char) : Bool :=
  scheme = "file".toList

/-- Schemes whose URLs always have a path, and for which a backslash is a slash. -/
def isSpecial (scheme : List Char) : Bool :=
  (defaultPort? scheme).isSome || isFile scheme

/-- Characters that a host may hold although no request can name it. -/
def isUnspoken (c : Char) : Bool :=
  c ∈ ['"', '\x60', '\x7b', '\x7d']

/-- The longest URL that a request can name, in bytes. -/
def requestLimit : Nat := 65534

/-- Whether a web request can be sent to the URL. -/
def isWeb (url : Url) : Bool :=
  (url.scheme = "http".toList || url.scheme = "https".toList) &&
    (url.authority.all fun authority => !authority.host.any isUnspoken) &&
    url.withoutUser.render.utf8ByteSize ≤ requestLimit

/-- The scheme in lower case, and what follows its colon. -/
def cutScheme? (text : List Char) : Option (List Char × List Char) :=
  let isPart := fun c : Char => c.isAlphanum || ['+', '-', '.'].contains c
  match text.takeWhile isPart, text.dropWhile isPart with
  | c :: scheme, ':' :: rest =>
    if c.isAlpha then some ((c :: scheme).map Char.toLower, rest) else none
  | _, _ => none

/-! ### Authorities -/

/-- The text before the first `mark`, and the text after it if there is one. -/
def cutAt (mark : Char) (text : List Char) : List Char × Option (List Char) :=
  match text.dropWhile (· != mark) with
  | [] => (text, none)
  | _ :: rest => (text.takeWhile (· != mark), some rest)

/-- The texts around the last `@`; everything is after it if there is none. -/
def cutUser (text : List Char) : Option (List Char) × List Char :=
  match cutAt '@' text.reverse with
  | (_, none) => (none, text)
  | (host, some user) => (some user.reverse, host.reverse)

/-- A port number, and what follows it, which is taken for the path if it begins with a backslash.
An absent number and the implied number are no number at all. -/
def parsePort (implied : Option Nat) (text : List Char) :
    Except UrlError (Option Nat × List Char) :=
  let digits := text.takeWhile Char.isDigit
  let rest := text.drop digits.length
  let number := digitsValue digits
  if 65535 < number || rest.head?.any (· != '\\') then .error .invalidPort
  else if digits.isEmpty || implied = some number then .ok (none, rest)
  else .ok (some number, rest)

/-- The host, which ends at a colon outside of brackets, and what follows it. -/
def cutHost (inBrackets : Bool) : List Char → List Char × Option (List Char)
  | [] => ([], none)
  | c :: rest =>
    if c = ':' && !inBrackets then ([], some rest)
    else
      let (host, port) := cutHost (c = '[' || (inBrackets && c != ']')) rest
      (c :: host, port)

/-- Reads an authority, after which the URL ends if `isLast`. What is left over belongs to the
path. -/
def parseAuthority (scheme : List Char) (isLast : Bool) (text : List Char) :
    Except UrlError (Authority × List Char) := do
  let (user, place) := cutUser text
  if user = some [] && place.isEmpty && !isLast then throw .emptyHost
  let (name, password) := cutAt ':' (user.getD [])
  let name := percentEncode userReserved name
  let password := (password.filter (!·.isEmpty)).map (percentEncode userReserved)
  let (hostText, portText) := cutHost false place
  if isSpecial scheme && hostText.isEmpty then throw .emptyHost
  let host ← if isSpecial scheme then parseHost hostText else parseOtherHost hostText
  if host.isEmpty && (portText.isSome || !name.isEmpty || password.isSome) then throw .emptyHost
  let (port, rest) ← parsePort (defaultPort? scheme) (portText.getD [])
  return (⟨name, password, host, port⟩, rest)

/-! ### Paths -/

/-- Segments that stand for the place where they are. -/
def isHere (segment : List Char) : Bool :=
  [".", "%2e"].contains (String.ofList (segment.map Char.toLower))

/-- Segments that stand for the place above. -/
def isAbove (segment : List Char) : Bool :=
  ["..", ".%2e", "%2e.", "%2e%2e"].contains (String.ofList (segment.map Char.toLower))

/-- A letter with a colon or a bar names a drive. -/
def isDrive : List Char → Bool
  | [letter, mark] => letter.isAlpha && (mark = ':' || mark = '|')
  | _ => false

/-- Whether nothing is above a segment: a drive, even with a backslash and more after it. -/
def isTop (segment : List Char) : Bool :=
  isDrive (segment.take 2) && (segment.drop 2).head?.all (· = '\\')

/-- The place above the place of the segments. -/
def leave (before : List (List Char)) : List (List Char) :=
  if before.getLast?.any isTop then before else before.dropLast

/-- The segments with one more. The first segment of a file's path may be a drive, which is written
with a colon. -/
def enter (scheme : List Char) (before : List (List Char)) (segment : List Char) :
    List (List Char) :=
  if isFile scheme && before.isEmpty && isDrive segment then [segment.take 1 ++ [':']]
  else before ++ [segment]

/-- The segments that are left when more have been read; the last is read last. -/
def resolveSegments (scheme : List Char) (before : List (List Char)) :
    List (List Char) → List (List Char)
  | [] => before
  | segment :: rest =>
    let stay := fun (place : List (List Char)) => if rest.isEmpty then place ++ [[]] else place
    if isAbove segment then resolveSegments scheme (stay (leave before)) rest
    else if isHere segment then resolveSegments scheme (stay before) rest
    else resolveSegments scheme (enter scheme before segment) rest

/-- The segments of a path, given by what follows its first slash. -/
def parseSegments (scheme text : List Char) : List (List Char) :=
  resolveSegments scheme [] (fields '/' (percentEncode pathReserved text))

def renderSegments (segments : List (List Char)) : List Char :=
  '/' :: List.intercalate ['/'] segments

/-- The path after an authority; a special URL has one even if none is written. -/
def parsePathAfter (scheme text : List Char) : List Char :=
  match text with
  | [] => if isSpecial scheme then ['/'] else []
  | '/' :: rest => renderSegments (parseSegments scheme rest)
  | rest => renderSegments (parseSegments scheme rest)

/-! ### Files -/

/-- The place of a file on a host, if one is given. Empty segments at the beginning of the path are
left out, and a path that begins with a drive has no host. -/
def filePlace (host : List Char) (segments : List (List Char)) : Authority × List Char :=
  let host := if segments.head?.any isDrive then [] else host
  (⟨[], none, host, none⟩, renderSegments (segments.dropWhile List.isEmpty))

/-- The place of a file, from the text after the scheme. -/
def parseFilePlace (scheme : List Char) :
    List Char → Except UrlError (Authority × List Char)
  | '/' :: '/' :: text =>
    let hostText := text.takeWhile (· != '/')
    let pathText := text.drop hostText.length
    if isDrive hostText then .ok (filePlace [] (parseSegments scheme text))
    else do
      let host ← if hostText.isEmpty then pure [] else parseHost hostText
      let host := if host = "localhost".toList then [] else host
      return filePlace host (parseSegments scheme pathText.tail)
  | '/' :: text => .ok (filePlace [] (parseSegments scheme text))
  | text => .ok (filePlace [] (parseSegments scheme text))

/-! ### Reading -/

/-- The text without what is ignored: blanks and controls around it, and breaks within it. -/
def clean (text : List Char) : List Char :=
  let isIgnorable := fun c : Char => c.toNat ≤ 0x20
  let inner := ((text.dropWhile isIgnorable).reverse.dropWhile isIgnorable).reverse
  inner.filter fun c => c != '\t' && c != '\n' && c != '\r'

/-- The authority and the path of a URL, from the text between its scheme and its query, after which
the URL ends if `isLast`. -/
def parsePlace (scheme : List Char) (isLast : Bool) (text : List Char) :
    Except UrlError (Option Authority × List Char) := do
  let withAuthority := fun (rest : List Char) => do
    let authorityText := rest.takeWhile (· != '/')
    let pathText := rest.drop authorityText.length
    let (authority, left) ← parseAuthority scheme (isLast && pathText.isEmpty) authorityText
    return (some authority, parsePathAfter scheme (left ++ pathText))
  if isSpecial scheme then
    let text := text.map fun c => if c = '\\' then '/' else c
    if isFile scheme then
      let (authority, path) ← parseFilePlace scheme text
      return (some authority, path)
    else withAuthority (text.dropWhile (· = '/'))
  else
    match text with
    | '/' :: '/' :: rest => withAuthority rest
    | '/' :: rest => return (none, renderSegments (parseSegments scheme rest))
    | rest => return (none, percentEncode [] rest)

/-- The URL that a text stands for. -/
def parse (text : String) : Except UrlError Url :=
  match cutScheme? (clean text.toList) with
  | none => .error .withoutScheme
  | some (scheme, rest) => do
    let (body, fragment) := cutAt '#' rest
    let (place, query) := cutAt '?' body
    let (authority, path) ← parsePlace scheme (query.isNone && fragment.isNone) place
    let reserved := if isSpecial scheme then specialQueryReserved else queryReserved
    return {
      scheme := scheme
      authority := authority
      path := path
      query := query.map (percentEncode reserved)
      fragment := fragment.map (percentEncode fragmentReserved) }

end Url

end ZoneSync
