/-
# `SoapBindings.Url.Parse` — reading URLs, and joining references to a base

A reference is read against the URL of the document that holds it; without one, it must begin with
a scheme.  Reading never fails on odd characters in a path, which are percent-encoded, but it does
on a host or a port that cannot be one.
-/
import SoapBindings.Decimal.Integer
import SoapBindings.Url.Basic
import SoapBindings.Url.Host
import SoapBindings.Text.Blank

namespace SoapBindings

/-- Why a text is no URL. -/
inductive UrlError where
  /-- It has no scheme and there is nothing to read it against. -/
  | relativeWithoutBase
  /-- It has no scheme and its base has no hierarchy. -/
  | baseWithoutHierarchy
  | emptyHost
  | invalidHost
  | invalidPort
  deriving DecidableEq, Repr

namespace Url

/-! ## Pieces of the text -/

/-- A tab or a line end.  A URL may be broken at any place. -/
def isBreak (c : Char) : Bool := "\t\n\r".toList.contains c

/-- The text without its breaks. -/
def joined (cs : List Char) : List Char := cs.filter (!isBreak ·)

/-- The text from the first character that is not a break. -/
def pastBreaks (cs : List Char) : List Char := cs.dropWhile isBreak

/-- The text without controls and blanks at its ends. -/
def trimmed (s : String) : List Char := Text.stripWhile (·.toNat ≤ 0x20) s.toList

def inScheme (c : Char) : Bool := c.isAlphanum || "+-.".toList.contains c || isBreak c

/-- The scheme in small letters and the text behind its colon. -/
def splitScheme? (cs : List Char) : Option (String × List Char) :=
  let name := joined (cs.takeWhile inScheme)
  match name, cs.dropWhile inScheme with
  | c :: _, ':' :: rest =>
    if c.isAlpha then some (String.ofList (name.map Char.toLower), rest) else none
  | _, _ => none

/-- The text before the query, the query and the fragment. -/
def splitTail (cs : List Char) : List Char × Option (List Char) × Option (List Char) :=
  let (front, fragment) := match cs.span (· != '#') with
    | (front, '#' :: fragment) => (front, some (joined fragment))
    | (front, _) => (front, none)
  match front.span (· != '?') with
  | (front, '?' :: query) => (front, some (joined query), fragment)
  | (front, _) => (front, none, fragment)

private def queryText (special : Bool) (cs : List Char) : String :=
  String.ofList (encode (if special then inSpecialQuerySet else inQuerySet) cs)

private def fragmentText (cs : List Char) : String := String.ofList (encode inFragmentSet cs)

/-- A slash; the special schemes take a backslash for one too. -/
def isSlash (special : Bool) (c : Char) : Bool := c == '/' || (special && c == '\\')

/-! ## Drives -/

/-- A letter and a colon or a bar, which name a drive. -/
def isDrive (segment : List Char) : Bool :=
  match segment with
  | [letter, mark] => letter.isAlpha && (mark == ':' || mark == '|')
  | _ => false

/-- A drive as a path holds it. -/
def isDriveText (segment : String) : Bool :=
  match segment.toList with
  | [letter, ':'] => letter.isAlpha
  | _ => false

/-- The text begins with a drive, which ends there or at a slash. -/
def startsWithDrive (cs : List Char) : Bool :=
  match cs with
  | letter :: mark :: rest =>
    isDrive [letter, mark] && (match rest with
      | [] => true
      | c :: _ => isSlash true c)
  | _ => false

/-- A drive at the front of a segment, and the text behind it, if the URL is broken between them. -/
def splitBrokenDrive? (segment : List Char) : Option (List Char × List Char) :=
  match joined segment, segment.dropWhile (· != ':') with
  | letter :: ':' :: c :: rest, _ :: mark :: _ =>
    if letter.isAlpha && isBreak mark then some ([letter, ':'], c :: rest) else none
  | _, _ => none

/-! ## Paths -/

def isSingleDot (segment : List Char) : Bool :=
  [".", "%2e"].contains (String.ofList (segment.map Char.toLower))

def isDoubleDot (segment : List Char) : Bool :=
  ["..", ".%2e", "%2e.", "%2e%2e"].contains (String.ofList (segment.map Char.toLower))

def segmentText (segment : List Char) : String := String.ofList (encode inPathSet segment)

/-- The path one level up.  Nothing leads out of a drive, nor out of what looks like one. -/
def climb (path : List String) : List String :=
  match path.getLast? with
  | some last => if startsWithDrive last.toList then path else path.dropLast
  | none => []

/-- Walk along the segments of a path below `path`, and tell whether the first of the path of a file
names a drive.  The last segment stands for itself, so a dot there leaves an empty segment. -/
def walk (file : Bool) (path : List String) : List (List Char) → List String × Bool
  | [] => (path, false)
  | broken :: rest =>
    let segment := joined broken
    let inside := if rest.isEmpty then [""] else []
    if isDoubleDot segment then walk file (climb path ++ inside) rest
    else if isSingleDot segment then walk file (path ++ inside) rest
    else if file && path.isEmpty && isDrive segment then
      ((walk file [String.ofList (segment.take 1 ++ [':'])] rest).1, true)
    else match if file && path.isEmpty then splitBrokenDrive? broken else none with
      | some (drive, behind) => walk file [String.ofList drive, segmentText behind] rest
      | none => walk file (path ++ [segmentText segment]) rest

/-- Walk along some segments from the URL of a file.  Its last segment gives way, but a drive stays,
and what would stand beside it is added to it unless it leads on. -/
def walkBeside (path : List String) (segments : List (List Char)) : List String :=
  match path.getLast?, segments with
  | some last, segment :: rest =>
    if !isDriveText last then (walk true path.dropLast segments).1
    else if path.length == 1 then (walk true path segments).1
    else if isDoubleDot (joined segment) then (walk true path rest).1
    else if isSingleDot (joined segment) then
      (walk true (if rest.isEmpty then path ++ [""] else path) rest).1
    else (walk true path.dropLast ((last.toList ++ segment) :: rest)).1
  | _, segments => (walk true [] segments).1

/-- The segments of a text, which slashes separate. -/
def splitSegments (special : Bool) (cs : List Char) : List (List Char) :=
  (cs.map fun c => if isSlash special c then '/' else c).splitOn '/'

/-- The path without the empty segments that it begins with, unless there are no others. -/
def dropLeadingEmpty (path : List String) : List String :=
  match path.dropWhile (·.isEmpty) with
  | [] => [""]
  | kept => kept

/-- The path that a text names from `path` on. -/
def pathFrom (scheme : String) (path : List String) (cs : List Char) : UrlPath :=
  .segments (walk false path (splitSegments (isSpecialScheme scheme) cs)).1

/-- The text of a path without the slash in front. -/
private def afterRoot (special : Bool) (cs : List Char) : List Char :=
  match cs with
  | c :: rest => if isSlash special c then rest else cs
  | [] => []

/-- The path that a text names from the root.  A text without a slash in front has one supplied in
the special schemes, and stays empty in others. -/
private def rootPath (scheme : String) (cs : List Char) : UrlPath :=
  if cs.isEmpty && !isSpecialScheme scheme then .segments []
  else pathFrom scheme [] (afterRoot (isSpecialScheme scheme) cs)

/-! ## Authorities -/

/-- Split at the last place where `p` holds. -/
private def splitLast? (p : Char → Bool) (cs : List Char) : Option (List Char × List Char) :=
  match (cs.reverse.span fun c => !p c) with
  | (after, _ :: before) => some (before.reverse, after.reverse)
  | _ => none

/-- A user name and perhaps a password, without what is empty. -/
private def userinfoText (cs : List Char) : String :=
  let (name, secret) := match cs.span (· != ':') with
    | (name, ':' :: secret) => (name, secret)
    | (name, _) => (name, [])
  let name := String.ofList (encode inUserinfoSet name)
  if secret.isEmpty then name else name ++ ":" ++ String.ofList (encode inUserinfoSet secret)

/-- The host and the text behind its colon; colons between brackets belong to the host. -/
private def splitPort (cs : List Char) : List Char × Option (List Char) :=
  match cs with
  | '[' :: rest =>
    match rest.span (· != ']') with
    | (inside, ']' :: behind) =>
      match behind with
      | ':' :: port => ('[' :: inside ++ [']'], some port)
      | behind => ('[' :: inside ++ ']' :: behind, none)
    | _ => (cs, none)
  | cs =>
    match cs.span (· != ':') with
    | (host, ':' :: port) => (host, some port)
    | (host, _) => (host, none)

/-- A port, unless it is the one that the scheme has by itself. -/
private def readPort (scheme : String) (cs : List Char) : Except UrlError (Option Nat) :=
  if cs.isEmpty then .ok none
  else match Decimal.readDigits? cs with
  | some n =>
    if n > 65535 then .error .invalidPort
    else .ok (if (Url.specialSchemes.lookup scheme).join == some n then none else some n)
  | none => .error .invalidPort

private def readHost (scheme : String) (cs : List Char) : Except UrlError String :=
  let special := isSpecialScheme scheme
  if cs.isEmpty && special then .error .emptyHost
  else match if special then domain? cs else opaqueHost? cs with
  | some host => .ok (String.ofList host)
  | none => .error .invalidHost

/-- A URL whose text behind the two slashes is given.  A backslash ends a port in every scheme, and
an empty user name needs a host unless nothing follows. -/
private def withAuthority (scheme : String) (front : List Char) (query fragment : Option String) :
    Except UrlError Url := do
  let special := isSpecialScheme scheme
  let (authority, path) := front.span fun c => !isSlash special c
  let (userinfo, place) := match splitLast? (· == '@') authority with
    | some (userinfo, place) => (some userinfo, place)
    | none => (none, authority)
  let bare := userinfo == some [] && place.isEmpty
  if bare && !(path.isEmpty && query.isNone && fragment.isNone) then throw .emptyHost
  let userinfo := userinfoText (userinfo.getD [])
  let (host, behind) := splitPort place
  if host.isEmpty && (!userinfo.isEmpty || behind.isSome) then throw .emptyHost
  let (port, more) := (behind.getD []).span (· != '\\')
  let host ← readHost scheme host
  let port ← readPort scheme port
  let path := rootPath scheme (more ++ path)
  return { scheme, userinfo, host := some host, port, path, query, fragment }

/-! ## Files -/

def segmentsOf (url : Url) : List String :=
  match url.path with
  | .segments names => names
  | .opaquePath _ => []

/-- The drive that the path of a URL begins with. -/
def driveOf (url : Url) : List String :=
  ((segmentsOf url).take 1).filter isDriveText

/-- The URL of a file.  However many slashes the path begins with, they count as one. -/
def fileUrl (host : String) (path : List String) (query fragment : Option String) : Url :=
  { scheme := "file", host := some host,
    path := .segments (dropLeadingEmpty path), query, fragment }

/-- The path of a file from the root or from a drive, and whether it names a drive of its own. -/
def filePath (path : List String) (cs : List Char) : List String × Bool :=
  walk true path (splitSegments true cs)

/-- Read the text behind `file://`.  A drive in place of a host, or at the root of one,
is a drive of this host. -/
private def readFilePlace (cs : List Char) (query fragment : Option String) : Except UrlError Url :=
  let (place, path) := cs.span fun c => !isSlash true c
  let place := joined place
  if isDrive place then .ok (fileUrl "" (filePath [] cs).1 query fragment)
  else if place.isEmpty then .ok (fileUrl "" (filePath [] path).1 query fragment)
  else match domain? place with
  | none => .error .invalidHost
  | some host =>
    let host := String.ofList host
    if host == "localhost" then .ok (fileUrl "" (filePath [] path).1 query fragment)
    else
      let (path, hasDrive) := filePath [] (afterRoot true path)
      .ok (fileUrl (if hasDrive then "" else host) path query fragment)

/-- Read the text behind `file:/`, which stays on the drive or else on the host of the base. -/
def readFileRoot (base : Option Url) (cs : List Char) (query fragment : Option String) :
    Url :=
  let ownDrive := startsWithDrive (joined cs)
  let drive := if ownDrive then [] else (base.map driveOf).getD []
  let host := if ownDrive || !drive.isEmpty then "" else (base.bind (·.host)).getD ""
  fileUrl host (filePath drive cs).1 query fragment

/-- Read the text behind `file:`, against the URL of another file if there is one. -/
def readFile (base : Option Url) (front : List Char) (query fragment : Option String) :
    Except UrlError Url :=
  match pastBreaks front with
  | first :: rest =>
    if isSlash true first then
      match pastBreaks rest with
      | second :: place =>
        if isSlash true second then readFilePlace place query fragment
        else .ok (readFileRoot base rest query fragment)
      | [] => .ok (readFileRoot base rest query fragment)
    else match if startsWithDrive (joined front) then none else base with
    | none => .ok (fileUrl "" (filePath [] front).1 query fragment)
    | some base =>
      let path := walkBeside (segmentsOf base) (splitSegments true front)
      .ok (fileUrl (base.host.getD "") path query fragment)
  | [] =>
    match base with
    | none => .ok (fileUrl "" [] query fragment)
    | some base => .ok { base with query := query <|> base.query, fragment }

/-! ## References -/

/-- Read a reference that has neither scheme nor place of its own.  A backslash at its front counts
as a slash, whatever the scheme. -/
def readRelative (base : Url) (front : List Char) (query fragment : Option String) :
    Except UrlError Url :=
  match front with
  | [] => .ok { base with query := query <|> base.query, fragment }
  | first :: rest =>
    if isSlash true first then
      match rest with
      | second :: place =>
        if isSlash true second then
          -- a third slash ends the host before it begins, but backslashes are passed over
          let plain := first == '/' && second == '/'
          let place := if plain then place else place.dropWhile (isSlash true)
          withAuthority base.scheme place query fragment
        else .ok { base with path := pathFrom base.scheme [] rest, query, fragment }
      | [] => .ok { base with path := pathFrom base.scheme [] [], query, fragment }
    else
      .ok { base with
        path := pathFrom base.scheme (segmentsOf base).dropLast front, query, fragment }

/-- Read a text that begins with a scheme of its own, which is not that of files. -/
private def readAbsolute (base : Option Url) (scheme : String) (front : List Char)
    (query fragment : Option String) : Except UrlError Url :=
  if isSpecialScheme scheme then
    let place := front.dropWhile (isSlash true)
    match base.filter (·.scheme == scheme), front.takeWhile (isSlash true) with
    | some base, [] => readRelative base front query fragment
    | some base, [_] => readRelative base front query fragment
    | _, _ => withAuthority scheme place query fragment
  else match front with
  | '/' :: '/' :: place => withAuthority scheme place query fragment
  | '/' :: path => .ok { scheme, path := pathFrom scheme [] path, query, fragment }
  | text =>
    let text := String.ofList (encode inControlSet text)
    .ok { scheme, path := .opaquePath text, query, fragment }

/-- Read a URL, or a reference to one against a base.  Only in the path of a file does it matter
where the text is broken. -/
def read (base : Option Url) (s : String) : Except UrlError Url :=
  let cs := trimmed s
  match splitScheme? cs with
  | some (scheme, rest) =>
    let (front, query, fragment) := splitTail rest
    let query := query.map (queryText (isSpecialScheme scheme))
    let fragment := fragment.map fragmentText
    if scheme == "file" then readFile (base.filter (·.scheme == "file")) front query fragment
    else readAbsolute base scheme (joined front) query fragment
  | none =>
    match base with
    | none => .error .relativeWithoutBase
    | some base =>
      let (front, query, fragment) := splitTail cs
      let query := query.map (queryText base.isSpecial)
      let fragment := fragment.map fragmentText
      match base.path with
      | .opaquePath _ =>
        if cs.head? == some '#' then .ok { base with fragment } else .error .baseWithoutHierarchy
      | .segments _ =>
        if base.scheme == "file" then readFile (some base) front query fragment
        else readRelative base (joined front) query fragment

end Url

end SoapBindings
