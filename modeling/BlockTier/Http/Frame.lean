import BlockTier.Http.Client
/-!
Requests and responses as the bytes of a connection: a head of text lines and a body whose length
the head gives.
-/
namespace BlockTier.Http

/-- What a request's head says, with the length of the body that follows it. -/
structure Head where
  method : Method
  target : String
  contentType : Option String := none
  length : Nat := 0

def Method.ofName : String → Method
  | "GET" => .get
  | "HEAD" => .head
  | "POST" => .post
  | "PUT" => .put
  | name => .other name

/-- The name of a field in lower case and its value without the blanks around it. -/
def field? (line : String) : Option (String × String) :=
  let cs := line.toList
  let blank (c : Char) : Bool := c = ' ' || c = '\t'
  match cs.dropWhile (· ≠ ':') with
  | [] => none
  | _ :: value =>
    some (String.ofList ((cs.takeWhile (· ≠ ':')).map Char.toLower),
      String.ofList (((value.dropWhile blank).reverse.dropWhile blank).reverse))

/-- Takes account of a field; those that do not matter here are passed over. -/
def Head.withField (h : Head) (line : String) : Head :=
  match field? line with
  | some ("content-type", value) => { h with contentType := some value }
  | some ("content-length", value) => { h with length := value.toNat?.getD 0 }
  | _ => h

def Head.ofLines? : List String → Option Head
  | [] => none
  | first :: fields =>
    match first.splitOn " " with
    | method :: target :: _ =>
      some (fields.foldl Head.withField { method := Method.ofName method, target })
    | _ => none

def Head.request (h : Head) (body : Bytes) : Request :=
  { method := h.method, target := h.target, contentType := h.contentType, body }

def reason : Nat → String
  | 200 => "OK"
  | 204 => "No Content"
  | 400 => "Bad Request"
  | 404 => "Not Found"
  | 405 => "Method Not Allowed"
  | 413 => "Payload Too Large"
  | 415 => "Unsupported Media Type"
  | 422 => "Unprocessable Entity"
  | 507 => "Insufficient Storage"
  | _ => "Unknown"

def Body.contentType? : Body → Option String
  | empty => none
  | json _ => some "application/json"
  | bytes _ => some "application/octet-stream"

def Response.frame (r : Response) : Bytes :=
  let content := r.body.content
  let kind :=
    match r.body.contentType? with
    | some t => s!"Content-Type: {t}\r\n"
    | none => ""
  Bytes.ofString
    (s!"HTTP/1.1 {r.code} {reason r.code}\r\n" ++ kind ++
      s!"Content-Length: {content.length}\r\n\r\n") ++ content

end BlockTier.Http
