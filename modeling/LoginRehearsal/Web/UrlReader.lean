import LoginRehearsal.Text.Blank
import LoginRehearsal.Web.Url

/-!
# Reading web addresses

An absolute URL from text, by the rules that browsers follow. Blanks and controls around the text
and tabs and line ends inside it are passed over; then the scheme, the fragment and the query are cut off,
and what is left is read by the rules of the scheme. Only behind the drive letter of a file a break matters:
there it separates as a slash does.

* `Url.parse`: the URL that a text stands for, or why there is none.
* `Url.segmentsOf`: paths without `.` and `..`.
-/
namespace LoginRehearsal
namespace Url

/-! ## Classes of bytes that stand for themselves -/

/-- Printable ASCII other than the given characters. -/
def printableBut (others : String) (b : UInt8) : Bool :=
  Host.isPrintable b && !others.toList.contains (Char.ofNat b.toNat)

def plainInPath : UInt8 → Bool := printableBut " \"<>`#?\x7b\x7d"

def plainInUser : UInt8 → Bool := printableBut " \"<>`#?\x7b\x7d/:;=@[\\]^|"

def plainInQuery (special : Bool) : UInt8 → Bool :=
  printableBut (if special then " \"#<>'" else " \"#<>")

def plainInFragment : UInt8 → Bool := printableBut " \"<>`"

/-- Characters as URL text over a class of plain bytes. -/
def escaped (plain : UInt8 → Bool) (cs : List Char) : String :=
  String.ofList (Percent.encodeChars plain cs)

/-- A text without the tabs that stand for breaks in it. -/
def withoutBreaks (cs : List Char) : List Char := cs.filter (· != '\t')

/-! ## Scheme -/

/-- Characters of a scheme behind its first letter. -/
def isSchemeChar (c : Char) : Bool := c.isAlphanum || c == '+' || c == '-' || c == '.'

/-- The scheme in lower case and the text behind its colon. -/
def splitScheme? (cs : List Char) : Option (String × List Char) :=
  match cs with
  | [] => none
  | c :: _ =>
    match cs.dropWhile isSchemeChar with
    | ':' :: rest =>
      if c.isAlpha then some (String.ofList ((cs.takeWhile isSchemeChar).map Char.toLower), rest)
      else none
    | _ => none

/-! ## Paths -/

/-- Whether a character separates path segments. -/
def isSlash (special : Bool) (c : Char) : Bool := c == '/' || (special && c == '\\')

/-- The spellings of the segment that stands for the place itself. -/
def isDot (segment : List Char) : Bool :=
  [".", "%2e"].contains (String.ofList (segment.map Char.toLower))

/-- The spellings of the segment that goes one up. -/
def isDotDot (segment : List Char) : Bool :=
  ["..", ".%2e", "%2e.", "%2e%2e"].contains (String.ofList (segment.map Char.toLower))

/-- A drive letter: a letter with a colon or a bar. -/
def isDrive : List Char → Bool
  | [letter, mark] => letter.isAlpha && (mark == ':' || mark == '|')
  | _ => false

/-- A path, last segment first, without its last segment. A drive letter stays. -/
def shorten : List String → List String
  | [] => []
  | segment :: rest => if isDrive segment.toList then segment :: rest else rest

/-- A path under way: the segments kept so far, last first, and whether a drive letter was put to its
front. -/
structure PathDraft where
  kept : List String
  drive : Bool
deriving DecidableEq, Repr

/-- A path with one more segment. The drive letter at the front of a file URL takes a colon; if it was broken
off by a tab, the text behind that makes a segment of its own. -/
def PathDraft.push (file : Bool) (d : PathDraft) (segment : List Char) : PathDraft :=
  let plain := escaped plainInPath (withoutBreaks segment)
  if file && d.kept.isEmpty then
    match segment with
    | letter :: ':' :: '\t' :: c :: more =>
      if letter.isAlpha then
        ⟨[escaped plainInPath (withoutBreaks (c :: more)), String.ofList [letter, ':']], d.drive⟩
      else ⟨[plain], d.drive⟩
    | _ =>
      match isDrive (withoutBreaks segment), segment with
      | true, letter :: _ => ⟨[String.ofList [letter, ':']], true⟩
      | _, _ => ⟨[plain], d.drive⟩
  else { d with kept := plain :: d.kept }

/-- A path with the segments of what remains of its text. -/
def PathDraft.resolve (file : Bool) (d : PathDraft) : List (List Char) → PathDraft
  | [] => d
  | segment :: rest =>
    let up := if isDotDot (withoutBreaks segment) then { d with kept := shorten d.kept } else d
    let next :=
      if isDotDot (withoutBreaks segment) || isDot (withoutBreaks segment) then
        if rest.isEmpty then { up with kept := "" :: up.kept } else up
      else d.push file segment
    next.resolve file rest

/-- The path whose text stands behind its first slash. -/
def draftOf (special file : Bool) (cs : List Char) : PathDraft :=
  PathDraft.resolve file ⟨[], false⟩ (splitOn (isSlash special) cs)

/-- The segments of a path that stands behind its first slash. -/
def segmentsOf (special : Bool) (cs : List Char) : List String :=
  (draftOf special false cs).kept.reverse

/-- The text behind the first slash of a path. -/
def behindSlash (special : Bool) (cs : List Char) : List Char :=
  match cs with
  | [] => []
  | c :: rest => if isSlash special c then rest else cs

/-- The path behind an authority of a special URL; it is never empty. -/
def specialPath (cs : List Char) : UrlPath := .segments (segmentsOf true (behindSlash true cs))

/-- The path of a file URL: no empty segments at its front. -/
def filePath (d : PathDraft) : UrlPath :=
  match d.kept.reverse.dropWhile (·.isEmpty) with
  | [] => .segments [""]
  | kept => .segments kept

/-- The path behind an authority of a URL that is not special. -/
def plainPath (cs : List Char) : UrlPath :=
  match cs with
  | [] => .segments []
  | '/' :: rest => .segments (segmentsOf false rest)
  | _ => .segments (segmentsOf false cs)

/-! ## Authority -/

/-- The host and what follows it, at the first colon outside brackets. -/
def splitPort (inside : Bool) (host : List Char) : List Char → List Char × Option (List Char)
  | [] => (host.reverse, none)
  | ':' :: rest => if inside then splitPort inside (':' :: host) rest else (host.reverse, some rest)
  | c :: rest =>
    splitPort (if c = '[' then true else if c = ']' then false else inside) (c :: host) rest

/-- The port that digits spell, if they are any, and what follows them; only a backslash may. -/
def readPort (cs : List Char) : Except UrlError (Option Nat × List Char) :=
  let digits := cs.takeWhile Char.isDigit
  let rest := cs.dropWhile Char.isDigit
  if digits.isEmpty && rest.isEmpty then .ok (none, [])
  else match Numeral.readDigits Numeral.maxU16 .tooLarge 0 digits with
    | .error _ => .error .invalidPort
    | .ok port =>
      if rest.isEmpty || rest.head? = some '\\' then
        .ok (if digits.isEmpty then none else some port, rest)
      else .error .invalidPort

/-- The part before the last `@` and the part behind it. -/
def splitUser (cs : List Char) : Option (List Char × List Char) :=
  if cs.contains '@' then
    some (((cs.reverse.dropWhile (· != '@')).drop 1).reverse,
      (cs.reverse.takeWhile (· != '@')).reverse)
  else none

/-- User name and password from the text before the `@`. An empty password is none. -/
def readUser (cs : List Char) : String × Option String :=
  match splitFirst? (· == ':') cs with
  | none => (escaped plainInUser cs, none)
  | some (user, []) => (escaped plainInUser user, none)
  | some (user, password) => (escaped plainInUser user, some (escaped plainInUser password))

/-- The authority that a text between `//` and the path stands for, and what it leaves to the path.
`followed` says whether anything stands behind it. -/
def readAuthority (scheme : String) (followed : Bool) (cs : List Char) :
    Except UrlError (Authority × List Char) := do
  let special := isSpecialScheme scheme
  let (userPart, hostPart) := match splitUser cs with
    | none => (none, cs)
    | some (user, rest) => (some user, rest)
  if userPart = some [] ∧ hostPart.isEmpty ∧ followed then throw .emptyHost
  let (user, password) := readUser (userPart.getD [])
  let (hostChars, portChars) := splitPort false [] hostPart
  if special ∧ hostChars.isEmpty then throw .emptyHost
  let host ← if special then Host.parse hostChars else Host.parseOpaque hostChars
  if hostChars.isEmpty ∧ portChars.isSome then throw .emptyHost
  let (port, rest) ← match portChars with
    | none => pure (none, [])
    | some digits => readPort digits
  if hostChars.isEmpty ∧ (!user.isEmpty ∨ password.isSome) then throw .emptyHost
  let port := if port = defaultPort? scheme then none else port
  pure (⟨user, password, host, port⟩, rest)

/-! ## The rules of the schemes -/

/-- The authority of a file URL that names no host. -/
def noHost : Authority := ⟨"", none, .name "", none⟩

/-- Authority and path of a file URL. A host stands between two slashes and the path; without one all that
follows the two slashes is path. A drive letter at the front of the path takes the place of the host. -/
def readFile (cs : List Char) : Except UrlError (Option Authority × UrlPath) :=
  match cs with
  | a :: b :: rest =>
    if isSlash true a && isSlash true b then
      let hostChars := withoutBreaks (rest.takeWhile (!isSlash true ·))
      if hostChars.isEmpty || isDrive hostChars then
        .ok (some noHost, filePath (draftOf true true rest))
      else do
        let path := rest.dropWhile (!isSlash true ·)
        match ← Host.parse hostChars with
        | .name "localhost" => pure (some noHost, filePath (draftOf true true path))
        | host =>
          let draft := draftOf true true (behindSlash true path)
          pure (some (if draft.drive then noHost else { noHost with host }), filePath draft)
    else .ok (some noHost, filePath (draftOf true true (behindSlash true cs)))
  | _ => .ok (some noHost, filePath (draftOf true true (behindSlash true cs)))

/-- Authority and path of a URL, from the text between the scheme and the query. -/
def readHierarchy (scheme : String) (followed : Bool) (cs : List Char) :
    Except UrlError (Option Authority × UrlPath) :=
  if scheme = "file" then readFile (cs.dropWhile (· == '\t'))
  else if isSpecialScheme scheme then do
    let rest := cs.dropWhile (isSlash true)
    let path := rest.dropWhile (!isSlash true ·)
    let (authority, _) ← readAuthority scheme (followed || !path.isEmpty)
      (rest.takeWhile (!isSlash true ·))
    pure (some authority, specialPath path)
  else match cs with
    | '/' :: '/' :: rest => do
      let path := rest.dropWhile (· != '/')
      let (authority, more) ← readAuthority scheme (followed || !path.isEmpty)
        (rest.takeWhile (· != '/'))
      pure (some authority, plainPath (more ++ path))
    | '/' :: rest => .ok (none, .segments (segmentsOf false rest))
    | _ => .ok (none, .whole (escaped Host.isPrintable cs))

/-- The parts before and after the first of a character; no second part without one. -/
def cutAt (mark : Char) (cs : List Char) : List Char × Option (List Char) :=
  match splitFirst? (· == mark) cs with
  | none => (cs, none)
  | some (before, behind) => (before, some behind)

/-- A text without tabs and line ends, but for one tab where a colon stands in front of them. -/
def withFewBreaks (behindColon : Bool) : List Char → List Char
  | [] => []
  | c :: rest =>
    if c = '\t' ∨ c = '\n' ∨ c = '\r' then
      if behindColon then '\t' :: withFewBreaks false rest else withFewBreaks false rest
    else c :: withFewBreaks (c == ':') rest

/-- A text without blanks and controls around it, and with few breaks inside. -/
def tidied (s : String) : List Char := withFewBreaks false (trimBoth (·.toNat ≤ 0x20) s.toList)

/-- The URL that a text stands for. -/
def parse (s : String) : Except UrlError Url :=
  match splitScheme? (tidied s) with
  | none => .error .relativeWithoutBase
  | some (scheme, rest) => do
    let (rest, fragment) := cutAt '#' rest
    let (rest, query) := cutAt '?' rest
    let rest := if scheme = "file" then rest else withoutBreaks rest
    let (authority, path) ← readHierarchy scheme (query.isSome || fragment.isSome) rest
    pure {
      scheme, authority, path
      query := query.map fun cs => escaped (plainInQuery (isSpecialScheme scheme)) (withoutBreaks cs)
      fragment := fragment.map fun cs => escaped plainInFragment (withoutBreaks cs) }

end Url
end LoginRehearsal
