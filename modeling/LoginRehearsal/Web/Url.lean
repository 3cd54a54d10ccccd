import LoginRehearsal.Text.Form
import LoginRehearsal.Web.Host

/-!
# Web addresses

A URL by its components, its serialization, and the parameters in its query.

* `Url.text`: the serialization.
* `Url.hostText`, `Url.pathText`: the host and the path as they stand in it.
* `Url.parameters`, `Url.addParameter`: the form fields of the query.
-/
namespace LoginRehearsal

/-- What stands between `//` and the path. -/
structure Authority where
  user : String
  password : Option String
  host : Host
  /-- Absent for the default port of the scheme. -/
  port : Option Nat
deriving DecidableEq, Repr

/-- The path of a URL: segments behind slashes, or a text of no structure. -/
inductive UrlPath where
  | segments (parts : List String)
  | whole (text : String)
deriving DecidableEq, Repr

/-- A URL. -/
structure Url where
  scheme : String
  authority : Option Authority
  path : UrlPath
  query : Option String
  fragment : Option String
deriving DecidableEq, Repr

/-- The default port of a scheme, for those that have one. -/
def defaultPort? (scheme : String) : Option Nat :=
  match scheme with
  | "http" => some 80
  | "ws" => some 80
  | "https" => some 443
  | "wss" => some 443
  | "ftp" => some 21
  | _ => none

/-- The schemes whose URLs have a host and treat a backslash as a slash. -/
def isSpecialScheme (scheme : String) : Bool := (defaultPort? scheme).isSome || scheme == "file"

namespace UrlPath

/-- The path as it stands in a serialized URL. -/
def text : UrlPath → String
  | .segments parts => String.join (parts.map ("/" ++ ·))
  | .whole s => s

end UrlPath

/-- User name and password with the `@` behind them, if there are any. -/
def Authority.userText (a : Authority) : String :=
  match a.password with
  | some password => a.user ++ ":" ++ password ++ "@"
  | none => if a.user.isEmpty then "" else a.user ++ "@"

/-- The port with the colon in front of it, if there is one. -/
def Authority.portText (a : Authority) : String :=
  match a.port with
  | some port => ":" ++ decimal port
  | none => ""

def Authority.text (a : Authority) : String := a.userText ++ a.host.text ++ a.portText

namespace Url

/-- The host as it stands in the serialization, empty if there is none. -/
def hostText (u : Url) : String :=
  match u.authority with
  | some a => a.host.text
  | none => ""

/-- The port, unless it is the default one or absent. -/
def port (u : Url) : Option Nat := u.authority.bind (·.port)

def pathText (u : Url) : String := u.path.text

/-- What stands between the scheme and the path. Without an authority, a path that begins with two
slashes is told from one by a dot segment. -/
def authorityText (u : Url) : String :=
  match u.authority with
  | some a => "//" ++ a.text
  | none =>
    match u.path with
    | .segments ("" :: _ :: _) => "/."
    | _ => ""

/-- The serialization. -/
def text (u : Url) : String :=
  u.scheme ++ ":" ++ u.authorityText ++ u.pathText ++
    (match u.query with
      | some q => "?" ++ q
      | none => "") ++
    (match u.fragment with
      | some f => "#" ++ f
      | none => "")

/-- The form fields in the query. -/
def parameters (u : Url) : List (String × String) := Form.readText (u.query.getD "")

/-- The URL with one more form field at the end of its query. -/
def addParameter (u : Url) (name value : String) : Url :=
  let field := Form.render [(name, value)]
  { u with query := some (match u.query with
      | none => field
      | some q => if q.isEmpty then field else q ++ "&" ++ field) }

end Url
end LoginRehearsal
