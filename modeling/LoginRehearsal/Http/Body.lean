import LoginRehearsal.Http.Message
import LoginRehearsal.Text.Form

/-!
# Request bodies

How a body is taken in as a text or as a form, and how it is rejected. The content type of a form is looked
at before its body is read.

* `Request.bodyText`, `Request.formFields`: the two readings.
* `Rejection.response`: the answer to a body that cannot be taken in.
-/
namespace LoginRehearsal
namespace Http

/-- Why a body is not taken in. -/
inductive Rejection where
  | notForm
  | tooLarge
  | notUtf8 (error : Utf8.DecodeError)
  | duplicateField (name : String)
deriving DecidableEq, Repr

/-- The answer to a rejected body. -/
def Rejection.response : Rejection → Response
  | .notForm =>
    .plain 415 "Form requests must have \x60Content-Type: application/x-www-form-urlencoded\x60"
  | .tooLarge => .plain 413 "Failed to buffer the request body: length limit exceeded"
  | .notUtf8 error => .plain 400 ("Request body didn't contain valid UTF-8: " ++ error.message)
  | .duplicateField name =>
    .plain 422 s!"Failed to deserialize form body: duplicate field \x60{name}\x60"

/-- The greatest body that is taken in, two mebibytes. -/
def bodyLimit : Nat := 2097152

/-- The first of the given names that stands a second time in the fields. -/
def duplicate? (names : List String) (seen : List String) :
    List (String × String) → Option String
  | [] => none
  | (name, _) :: rest =>
    if !names.contains name then duplicate? names seen rest
    else if seen.contains name then some name
    else duplicate? names (name :: seen) rest

namespace Request

/-- The body, unless it is too large. -/
def boundedBody (r : Request) : Except Rejection Bytes :=
  if bodyLimit < r.body.length then .error .tooLarge else .ok r.body

/-- The body as text. -/
def bodyText (r : Request) : Except Rejection String := do
  let body ← r.boundedBody
  (Utf8.decode? body).mapError .notUtf8

/-- Whether a request says that its body is a form. -/
def hasForm (r : Request) : Bool :=
  match r.textHeader? "content-type" with
  | some value => "application/x-www-form-urlencoded".toList.isPrefixOf value.toList
  | none => false

/-- The fields of a form in which each of the given names stands at most once. -/
def formFields (r : Request) (names : List String) : Except Rejection (List (String × String)) :=
  if !r.hasForm then .error .notForm
  else do
    let fields := Form.read (← r.boundedBody)
    match duplicate? names [] fields with
    | some name => .error (.duplicateField name)
    | none => .ok fields

end Request

/-- The first value of a field. -/
def field? (fields : List (String × String)) (name : String) : Option String :=
  (fields.find? (·.1 == name)).map (·.2)

end Http
end LoginRehearsal
