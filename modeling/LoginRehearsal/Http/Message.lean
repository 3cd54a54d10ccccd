import LoginRehearsal.Text.Numeral
import LoginRehearsal.Text.Split
import LoginRehearsal.Text.Utf8

/-!
# HTTP messages

Requests and responses of HTTP/1.1 as far as a login page needs them. Names of header fields are in lower
case; values are bytes.

* `Target.ofText`: the target of a request line.
* `Request.header?`, `Request.textHeader?`: header fields of a request.
* `Response.finished`: a response with its length, as it answers a method.
-/
namespace LoginRehearsal
namespace Http

/-- A name and a value. -/
abbrev Header := String × Bytes

/-! ## Targets -/

/-- What a request asks for: a path and a query. -/
structure Target where
  path : String
  query : Option String
deriving DecidableEq, Repr

namespace Target

/-- Path and query of a text, without a fragment. -/
def ofPath (cs : List Char) : Target :=
  let cs := cs.takeWhile (· != '#')
  match splitFirst? (· == '?') cs with
  | none => ⟨String.ofList cs, none⟩
  | some (path, query) => ⟨String.ofList path, some (String.ofList query)⟩

/-- The text behind scheme and authority of an absolute target. -/
def behindAuthority? : List Char → Option (List Char)
  | ':' :: '/' :: '/' :: rest => some (rest.dropWhile fun c => c != '/' && c != '?' && c != '#')
  | c :: rest => if c = '/' ∨ c = '?' ∨ c = '#' then none else behindAuthority? rest
  | [] => none

/-- The target that a request line names: a path, or a whole address, of which path and query count. -/
def ofText (s : String) : Target :=
  match behindAuthority? s.toList with
  | some rest => ofPath rest
  | none => ofPath s.toList

/-- The path by which a request is routed. -/
def route (t : Target) : String := if t.path.isEmpty then "/" else t.path

/-- Path and query as they were sent. -/
def text (t : Target) : String :=
  match t.query with
  | some query => t.path ++ "?" ++ query
  | none => t.route

end Target

/-! ## Requests -/

structure Request where
  method : String
  target : Target
  headers : List Header
  body : Bytes

/-- The first value of a header field in a list. -/
def findHeader? (headers : List Header) (name : String) : Option Bytes :=
  (headers.find? (·.1 == name)).map (·.2)

/-- Printable ASCII and tabs, which may stand in a header as text. -/
def isVisible (b : UInt8) : Bool := b == 0x09 || (0x20 ≤ b.toNat && b.toNat < 0x7F)

/-- Bytes that may stand in a header at all: no controls but tabs. -/
def isFieldByte (b : UInt8) : Bool := b == 0x09 || (0x20 ≤ b.toNat && b.toNat != 0x7F)

/-- Visible bytes as text. -/
def visibleText? (bs : Bytes) : Option String :=
  if bs.all isVisible then some (String.ofList (bs.map fun b => Char.ofNat b.toNat)) else none

namespace Request

def header? (r : Request) (name : String) : Option Bytes := findHeader? r.headers name

/-- The first value of a header field, if it is visible text. -/
def textHeader? (r : Request) (name : String) : Option String :=
  (r.header? name).bind visibleText?

end Request

/-! ## Responses -/

structure Response where
  status : Nat
  headers : List Header
  body : Bytes

namespace Response

/-- A response without a body. -/
def empty (status : Nat) (headers : List Header) : Response := ⟨status, headers, []⟩

/-- A response whose body is a text of some type. -/
def ofText (status : Nat) (contentType body : String) : Response :=
  ⟨status, [("content-type", Utf8.encode contentType)], Utf8.encode body⟩

/-- A response in plain text. -/
def plain (status : Nat) (body : String) : Response :=
  ofText status "text/plain; charset=utf-8" body

/-- A route is there, but not for this method. -/
def methodNotAllowed (allowed : String) : Response :=
  empty 405 [("allow", Utf8.encode allowed)]

/-- The response to send: with the length of its body, fields in the order of their names, and no body
where only the head was asked for. -/
def finished (r : Response) (method : String) : Response :=
  let headers := (r.headers ++ [("content-length", Utf8.encode (decimal r.body.length))]).mergeSort
    fun a b => decide (a.1 ≤ b.1)
  ⟨r.status, headers, if method = "HEAD" then [] else r.body⟩

end Response
end Http
end LoginRehearsal
