import LoginRehearsal.Http.Body

/-!
# HTTP on the wire

One request and one response on a connection. Lines end with a line feed, and a carriage return in front
of it counts to the end of the line. A body is as long as its header says; a body in chunks is not taken
in.

* `Reading.ofBytes`: how far the bytes of a connection have come.
* `Response.wire`: a response as it is sent, after which the connection is closed.
-/
namespace LoginRehearsal
namespace Http

/-- How far the bytes of a connection have come. -/
inductive Reading where
  | unfinished
  | malformed
  | finished (request : Request)

/-! ## Heads -/

/-- A line without the carriage return at its end, given its bytes in reverse. -/
def lineOf (reversed : Bytes) : Bytes :=
  match reversed with
  | 0x0D :: before => before.reverse
  | _ => reversed.reverse

/-- The lines up to the first empty one, and the bytes behind it. `line` holds the bytes of the current
line in reverse, and `lines` the lines before it. Empty lines in front of all others do not count. -/
def headFrom (line : Bytes) (lines : List Bytes) : Bytes → Option (List Bytes × Bytes)
  | [] => none
  | b :: rest =>
    if b = 0x0A then
      match lineOf line, lines with
      | [], [] => headFrom [] [] rest
      | [], _ => some (lines.reverse, rest)
      | text, _ => headFrom [] (text :: lines) rest
    else headFrom (b :: line) lines rest

/-- Characters that names of methods and of header fields consist of. -/
def isNameByte (b : UInt8) : Bool :=
  let c := Char.ofNat b.toNat
  b.toNat < 0x80 && (c.isAlphanum || "!#$%&*+-.^_|~\x27\x60".toList.contains c)

/-- Bytes as a name. -/
def name? (bs : Bytes) : Option String :=
  if bs.isEmpty || !bs.all isNameByte then none else visibleText? bs

def isSpaceOrTab (b : UInt8) : Bool := b == 0x20 || b == 0x09

/-- A value without blanks at both ends. -/
def trimValue (bs : Bytes) : Bytes :=
  ((bs.dropWhile isSpaceOrTab).reverse.dropWhile isSpaceOrTab).reverse

/-- A header field, its name in lower case. -/
def headerField? (line : Bytes) : Option Header := do
  let (name, value) ← splitFirst? (· == 0x3A) line
  let name ← name? name
  let value := trimValue value
  if value.all isFieldByte then pure (String.ofList (name.toList.map Char.toLower), value) else none

/-- The method and the target of a request line. -/
def requestLine? (line : Bytes) : Option (String × Target) := do
  match splitOn (· == 0x20) line with
  | [method, target, version] =>
    let method ← name? method
    let target ← (Utf8.decode? target).toOption
    if target.isEmpty || !(Utf8.encode "HTTP/1.").isPrefixOf version then none
    else pure (method, Target.ofText target)
  | _ => none

/-! ## Requests -/

/-- The length of the body that header fields announce. -/
def bodyLength? (headers : List Header) : Option Nat :=
  if (findHeader? headers "transfer-encoding").isSome then none
  else match findHeader? headers "content-length" with
    | none => some 0
    | some value => do (Numeral.readNat Numeral.maxU64 (← visibleText? value)).toOption

namespace Reading

/-- The request of a head, with the bytes behind it so far. A body is read up to one byte over the greatest
that is taken in. -/
def ofHead (lines : List Bytes) (behind : Bytes) : Reading :=
  match lines with
  | [] => .malformed
  | first :: others =>
    match requestLine? first, others.mapM headerField? with
    | some (method, target), some headers =>
      match bodyLength? headers with
      | none => .malformed
      | some length =>
        if behind.length < min length (bodyLimit + 1) then .unfinished
        else .finished ⟨method, target, headers, behind.take length⟩
    | _, _ => .malformed

/-- How far the bytes of a connection have come. -/
def ofBytes (bs : Bytes) : Reading :=
  match headFrom [] [] bs with
  | none => .unfinished
  | some (lines, behind) => ofHead lines behind

end Reading

/-! ## Responses -/

/-- The phrase that goes with a status. -/
def reason : Nat → String
  | 200 => "OK"
  | 301 => "Moved Permanently"
  | 400 => "Bad Request"
  | 401 => "Unauthorized"
  | 404 => "Not Found"
  | 405 => "Method Not Allowed"
  | 413 => "Payload Too Large"
  | 415 => "Unsupported Media Type"
  | 422 => "Unprocessable Entity"
  | _ => ""

def lineEnd : Bytes := [0x0D, 0x0A]

/-- A header field as it is sent. -/
def fieldLine (h : Header) : Bytes := Utf8.encode h.1 ++ [0x3A, 0x20] ++ h.2 ++ lineEnd

namespace Response

/-- The answer to bytes that are no request. -/
def badRequest : Response := empty 400 [("content-length", Utf8.encode "0")]

/-- A response as it is sent. -/
def wire (r : Response) : Bytes :=
  Utf8.encode ("HTTP/1.1 " ++ decimal r.status ++ " " ++ reason r.status) ++ lineEnd ++
    r.headers.flatMap fieldLine ++ fieldLine ("connection", Utf8.encode "close") ++ lineEnd ++ r.body

end Response
end Http
end LoginRehearsal
