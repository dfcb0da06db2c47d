import Tabula.Json.Read
import Tabula.Json.Write
import Tabula.Text.Encoding
import Tabula.Web

/-!
A framework.

The target of a request is followed and decoded, and may have slashes at its end. Bodies are
documents. Besides the endpoints there are pages about the application. A number that is not finite
is sent as NULL, and an integer that is too long spoils the response.
-/

namespace Tabula.Web.Server

open Text

variable {σ : Type}

/-! ### Paths -/

/-- The bytes that a path stands for. A percent sign and two hexadecimal digits are one byte. -/
def pathBytes : List Char → List UInt8
  | [] => []
  | '%' :: a :: b :: cs =>
    match hexValue? a, hexValue? b with
    | some high, some low => UInt8.ofNat (16 * high + low) :: pathBytes cs
    | _, _ => '%'.toUInt8 :: pathBytes (a :: b :: cs)
  | c :: cs => (String.singleton c).toUTF8.toList ++ pathBytes cs
termination_by cs => cs.length

def decodePath (path : List Char) : List Char := decodeLeniently (pathBytes path)

/-- One part of a path after those before it: one dot leads nowhere, and two lead back. -/
def follow (before : List (List Char)) (part : List Char) : List (List Char) :=
  if part = ['.'] then before
  else if part = ['.', '.'] then
    if before = [[]] then before else before.dropLast
  else before ++ [part]

/-- What stands in a target between the host, which need not be there, and a question or a
fragment. -/
def pathOf (target : String) : List Char :=
  let cs := target.toList.takeWhile fun c => c != '?' && c != '#'
  let path :=
    match cs with
    | '/' :: '/' :: rest => rest.dropWhile (· != '/')
    | _ => cs
  let parts := (('/' :: path.dropWhile (· == '/')).splitOn '/').foldl follow []
  let path := ['/'].intercalate parts
  if path = [] then ['/'] else path

def withoutSlashes (path : List Char) : List Char := (path.reverse.dropWhile (· == '/')).reverse

/-- A path without the end of a line after it. -/
def withoutLineEnd (path : List Char) : List Char :=
  if path.getLast? = some '\n' then path.dropLast else path

def pages : List String := ["/docs", "/docs/oauth2-redirect", "/redoc", "/openapi.json"]

def isPage (path : List Char) : Bool := pages.contains (String.ofList (withoutLineEnd path))

/-- What is left of a path for an endpoint, if it is there. Behind a path without a rest, the end of
a line may follow; a rest is one part of a path. -/
def rest? (e : Endpoint σ) (path : List Char) : Option String :=
  match e.handler with
  | .plain _ | .ofBody .. => if withoutLineEnd path = e.path.toList then some "" else none
  | .ofPath _ =>
    let rest := path.drop e.path.toList.length
    if e.path.toList.isPrefixOf path && !rest.isEmpty && !rest.contains '/' then
      some (String.ofList rest)
    else none

/-- The endpoints at a path, each with what is left of the path. -/
def found (app : App σ) (path : List Char) : List (Endpoint σ × String) :=
  app.endpoints.filterMap fun e => (rest? e path).map (e, ·)

/-- The path that a target leads to. It is decoded on its way out and on its way in. If it leads
nowhere, it is tried without slashes at its end. -/
def locate (app : App σ) (target : String) : List Char :=
  let path := decodePath (decodePath (pathOf target))
  if isPage path || !(found app path).isEmpty then path else withoutSlashes path

/-! ### Responses -/

def detail (text : String) : Option Json := some (.object [("detail", .text text)])

def notFound : Response := ⟨404, detail "Not Found"⟩

def wrongMethod : Response := ⟨405, detail "Method Not Allowed"⟩

/-- A body whose form spoils it before its content counts. -/
def unreadable : Response := ⟨400, detail "There was an error parsing the body"⟩

def notAccepted : Response := ⟨422, none⟩

/-- What is sent for a scalar. -/
def sent : Value → Value
  | .real x => if x.isFinite then .real x else .null
  | v => v

/-- The content as it is sent, if its integers are not too long. -/
def sent? : Content → Option Json
  | .document j => if j.isWritable then some (j.mapScalars sent) else none
  | .count n => some (.int n)
  | .list items => (ofItems items).map .array
  | .dict members => (ofMembers members).map .object
where
  ofItems : List Content → Option (List Json)
    | [] => some []
    | x :: xs => do return (← sent? x) :: (← ofItems xs)
  ofMembers : List (Label × Content) → Option (List (String × Json))
    | [] => some []
    | (l, x) :: xs => do return (l.plain, ← sent? x) :: (← ofMembers xs)

def send (status : Nat) (content : Content) : Response :=
  match sent? content with
  | some body => ⟨status, some body⟩
  | none => ⟨500, none⟩

/-- The response to what an endpoint has come to. -/
def conclude (app : App σ) (result : σ × Except Failure Content) : σ × Response :=
  (result.1,
    match result.2 with
    | .ok content => send 200 content
    | .error failure =>
      match app.caught failure with
      | some (status, content) => send status content
      | none => ⟨500, none⟩)

/-- The text of a member of a body. Bytes that are no text, a number that is too long and a document
that is too deep are worse than anything else. -/
def readMember (member : String) (body : List UInt8) : Except Response String :=
  if body = [] then .error notAccepted
  else
    match Text.decode? body with
    | none => .error unreadable
    | some text =>
      match Json.readDocument Json.deepest text with
      | .error (.unexpected _) => .error notAccepted
      | .error _ => .error unreadable
      | .ok d =>
        match d.member? member with
        | some (.atom (.text w)) =>
          match w.string? with
          | some s => .ok s
          | none => .error notAccepted
        | _ => .error notAccepted

/-- Has an endpoint do what it does. -/
def run (app : App σ) (s : σ) (body : List UInt8) (rest : String) : Handler σ → σ × Response
  | .plain run => conclude app (run s)
  | .ofBody member run =>
    match readMember member body with
    | .ok text => conclude app (run text s)
    | .error response => (s, response)
  | .ofPath run => conclude app (run rest s)

/-- Finds the endpoint of a request and has it answer. -/
def serve (app : App σ) (s : σ) (r : Request) : σ × Response :=
  let path := locate app r.path
  if isPage path then (s, if r.method ∈ ["GET", "HEAD"] then ⟨200, none⟩ else wrongMethod)
  else
    match found app path with
    | [] => (s, notFound)
    | here =>
      match here.find? (·.1.method == r.method) with
      | none => (s, wrongMethod)
      | some (e, rest) => run app s r.body rest e.handler

end Server

/-- A request for the head of a response is answered without the body. -/
def server : Framework where
  key := Label.plain
  handle app s r :=
    let (next, response) := Server.serve app s r
    (next, if r.method = "HEAD" then { response with body := none } else response)

end Tabula.Web
