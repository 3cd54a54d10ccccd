import LoginRehearsal.Http.Message
import LoginRehearsal.Settings

/-!
# The login page

The page that is shown to the user: a form that posts to a given address.

* `LoginPage.escape`: text as it stands in an attribute.
* `LoginPage.render`: the page.
* `LoginPage.response`: the page as an answer.
-/
namespace LoginRehearsal
namespace LoginPage

/-- The marks that would end an attribute or begin something else in it, with the entities that are written
instead. Every entity begins with an ampersand, so the ampersand has to be replaced first. -/
def entities : List (Char × String) :=
  [('&', "&amp;"), ('<', "&lt;"), ('>', "&gt;"), ('"', "&quot;"), (Char.ofNat 0x27, "&#x27;")]

/-- A text with one of the marks replaced wherever it stands. -/
def replaceMark (cs : List Char) (entity : Char × String) : List Char :=
  cs.flatMap fun c => if c = entity.1 then entity.2.toList else [c]

/-- A text as it stands in an attribute, after one replacement of the whole text for each mark. -/
def escape (s : String) : String := String.ofList (entities.foldl replaceMark s.toList)

/-- What stands in front of the address. -/
def opening : String :=
  "<!DOCTYPE html PUBLIC \"-//W3C//DTD XHTML 1.0 Transitional//EN\"\n" ++
  "  \"http://www.w3.org/TR/xhtml1/DTD/xhtml1-transitional.dtd\">\n" ++
  "<html xmlns=\"http://www.w3.org/1999/xhtml\">\n" ++
  "<head><title>Login here</title></head>\n" ++
  "<body>\n" ++
  "<h3>Login form</h3>\n" ++
  "<form method=\"POST\" action=\""

/-- The field for the password, which the OAuth 2.0 form has. -/
def passwordField : Flow → String
  | .oauth1 => ""
  | .oauth2 => "\n  Password: <input type=\"password\" name=\"password\" size=\"15\" /><br />"

/-- What stands behind the address. -/
def closing (flow : Flow) : String :=
  "\">\n" ++
  "  Username: <input type=\"text\" name=\"username\" size=\"15\" /><br />" ++
  passwordField flow ++
  "\n  <p><input type=\"submit\" value=\"Login\" /></p>\n" ++
  "</form>\n" ++
  "</body>\n" ++
  "</html>\n"

/-- The page whose form posts to `action`. -/
def render (flow : Flow) (action : String) : String := opening ++ escape action ++ closing flow

/-- The page as an answer. -/
def response (flow : Flow) (action : String) : Http.Response :=
  ⟨200, [("content-type", Utf8.encode "text/html; charset=utf-8"),
    ("content-encoding", Utf8.encode "utf-8")], Utf8.encode (render flow action)⟩

/-- The answer to a request for the head of a page. -/
def head : Http.Response := .empty 200 [("content-type", Utf8.encode "text/html")]

/-- The redirect that follows an accepted form. A location that no header can carry is reported in the
body instead. -/
def redirect (location : String) : Http.Response :=
  let bytes := Utf8.encode location
  if bytes.all Http.isFieldByte then .empty 301 [("location", bytes)]
  else .plain 301 "failed to parse header value"

end LoginPage
end LoginRehearsal
