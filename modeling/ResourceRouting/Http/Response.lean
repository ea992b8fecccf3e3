import ResourceRouting.Http.Request
import ResourceRouting.Reply
import ResourceRouting.Text.Octets

/-!
# Response — replies on the wire

A reply becomes a response of the host: header names in lower case, headers that are not valid
left out, and the length of the body always stated.
-/

namespace ResourceRouting
namespace Http

structure Response where
  status : Nat
  headers : Std.ExtTreeMap String String := ∅
  body : String := ""

namespace Response

/-- The most characters that the name of a header may have. -/
def headerNameLimit : Nat := 65535

/-- Whether a text can be the name of a header. -/
def isHeaderName (s : String) : Bool :=
  !s.isEmpty && s.length ≤ headerNameLimit && s.toList.all isTokenChar

/-- Whether a text can be the value of a header. -/
def isHeaderValue (s : String) : Bool :=
  s.toList.all fun c => c = '\t' || (32 ≤ c.toNat && c.toNat ≠ 127)

/-- Puts a header in if it is valid. -/
def addHeader (headers : Std.ExtTreeMap String String) (h : String × String) :
    Std.ExtTreeMap String String :=
  if isHeaderName h.1 && isHeaderValue h.2 then headers.insert (Text.loweredAscii h.1) h.2
  else headers

def contentLength : String := "content-length"

/-- The response with the length of its body stated, unless it states one. -/
def sized (r : Response) : Response :=
  { r with headers := r.headers.insertIfNew contentLength (toString (Text.octetCount r.body)) }

/-- The response of a reply; a status outside of 100 to 999 counts as a failure of the server. -/
def ofReply (r : Reply) : Response :=
  { status := if 100 ≤ r.status && r.status ≤ 999 then r.status else 500
    -- the length of the body replaces one that the reply states itself
    headers := (r.headers.foldl addHeader ∅).insert contentLength
      (toString (Text.octetCount r.body))
    body := r.body }

/-- The response to a failure of an operation. -/
def failure : Response := sized { status := 500 }

def textType : Std.ExtTreeMap String String :=
  (∅ : Std.ExtTreeMap String String).insert "content-type" "text/plain; charset=utf-8"

/-- The response to a request whose inputs cannot be read. Why a body is not taken in, or is not
JSON, is worded by its reader: that part is left open here, and so is the length. -/
def ofRejection : Rejection → Response
  | .captureNotText name =>
      sized { status := 400, headers := textType, body := s!"Invalid UTF-8 in \x60{name}\x60" }
  | .tooLarge => { status := 413, headers := textType, body := "Failed to buffer the request body" }
  | .notJsonType =>
      sized
        { status := 415
          headers := textType
          body := "Expected request with \x60Content-Type: application/json\x60" }
  | .notJson =>
      { status := 400, headers := textType, body := "Failed to parse the request body as JSON" }

/-- The response to a path that no route matches. -/
def notFound : Response := { status := 404 }

/-- The response to a method that a route does not answer. -/
def methodNotAllowed (allow : String) : Response :=
  sized { status := 405, headers := (∅ : Std.ExtTreeMap String String).insert "allow" allow }

/-- The response without its body, its headers kept. -/
def withoutBody (r : Response) : Response := { r with body := "" }

end Response
end Http
end ResourceRouting
