import ShellHub.JsonDecoding

/-!
# Binding a request to its struct

`Binder.Bind` fills a request struct from four sources in turn: the decoded path values,
the query string of a GET, DELETE or HEAD request, the JSON body of any request that has
one, and the request headers. A source writes only the fields it has a value for, so a
later source overrides an earlier one and an absent header overrides nothing.

`bind_text` states the outcome for a string field as a single expression: the header, else
the body's text, else the query value, else the path value, else the empty string.
-/

namespace ShellHub.RequestBinding

open JsonDecoding

/-- The HTTP methods of the API. -/
inductive Method where
  | GET
  | HEAD
  | POST
  | PUT
  | PATCH
  | DELETE
  deriving DecidableEq

/-- Request headers, in order. -/
abbrev Headers := List (String × String)

/-- A request as a handler finds it: raw path values by parameter name, query values and
headers in order, and the JSON body when the request has content. -/
structure Request where
  method : Method
  path : List (String × String)
  query : List (String × String)
  headers : Headers
  body : Option Json

/-- The value of a hexadecimal digit. -/
def hexDigit (digit : Char) : Option Nat :=
  if digit.isDigit then some (digit.toNat - '0'.toNat)
  else if 'a' ≤ digit ∧ digit ≤ 'f' then some (digit.toNat - 'a'.toNat + 10)
  else if 'A' ≤ digit ∧ digit ≤ 'F' then some (digit.toNat - 'A'.toNat + 10)
  else none

/-- Split a text into plain characters and the bytes its percent escapes stand for. An
incomplete or malformed escape fails. -/
def splitEscapes : List Char → Option (List (Char ⊕ Nat))
  | [] => some []
  | '%' :: high :: low :: rest =>
    (hexDigit high).bind fun upper => (hexDigit low).bind fun lower =>
      (splitEscapes rest).map (.inr (16 * upper + lower) :: ·)
  | '%' :: _ => none
  | plain :: rest => (splitEscapes rest).map (.inl plain :: ·)

/-- Read escaped bytes as UTF-8, given how many continuation bytes are missing and the bits
read so far. A byte that fits no sequence becomes U+FFFD. -/
def assemble : Nat → Nat → List (Char ⊕ Nat) → List Char
  | missing, _, [] => if missing = 0 then [] else ['\ufffd']
  | missing, _, .inl plain :: rest =>
    (if missing = 0 then [plain] else ['\ufffd', plain]) ++ assemble 0 0 rest
  | missing, bits, .inr byte :: rest =>
    if missing ≠ 0 ∧ byte / 64 = 2 then
      if missing = 1 then Char.ofNat (64 * bits + byte % 64) :: assemble 0 0 rest
      else assemble (missing - 1) (64 * bits + byte % 64) rest
    else
      (if missing = 0 then [] else ['\ufffd']) ++
        if byte < 0x80 then Char.ofNat byte :: assemble 0 0 rest
        else if byte / 32 = 6 then assemble 1 (byte % 32) rest
        else if byte / 16 = 14 then assemble 2 (byte % 16) rest
        else if byte / 8 = 30 then assemble 3 (byte % 8) rest
        else '\ufffd' :: assemble 0 0 rest

/-- Decode a path value. `Binder.Bind` keeps the raw value when the escapes are malformed. -/
def pathUnescape (raw : String) : String :=
  match splitEscapes raw.toList with
  | some pieces => String.ofList (assemble 0 0 pieces)
  | none => raw

/-- Look a path or query value up as echo does: exactly, else ignoring case. -/
def lookupValue (data : List (String × String)) (name : String) : Option String :=
  (selectKey (fun pair => some pair.1) data name).map Prod.snd

/-- `validHeaderFieldByte`: the characters of a header name. -/
def isTokenChar (letter : Char) : Bool :=
  letter.isAlphanum || letter ∈ "!#$%&'*+-.^_\x60|~".toList

/-- A letter is upper-case at the front and after a hyphen, and lower-case elsewhere. -/
def canonicalLetters : Bool → List Char → List Char
  | _, [] => []
  | upper, letter :: rest =>
    (if upper then letter.toUpper else letter.toLower) :: canonicalLetters (letter == '-') rest

/-- `CanonicalHeaderKey`: a name with a character that no header name has is left as it is. -/
def canonicalHeaderKey (name : String) : String :=
  if name.toList.all isTokenChar then String.ofList (canonicalLetters true name.toList) else name

/-- Two header names denote the same header. -/
def sameName (left right : String) : Bool := canonicalHeaderKey left == canonicalHeaderKey right

/-- Look a header up. Names that differ only in case are one header, with its first value. -/
def lookupHeader (headers : Headers) (name : String) : Option String :=
  (headers.find? fun pair => sameName name pair.1).map Prod.snd

/-- Go's `strconv.ParseBool`. -/
def parseBool (text : String) : Option Bool :=
  if text ∈ ["1", "t", "T", "TRUE", "true", "True"] then some true
  else if text ∈ ["0", "f", "F", "FALSE", "false", "False"] then some false
  else none

/-- Set a field from the text of a path value, query value or header. -/
def parseScalar : Scalar → String → Option Value
  | .string, text => some (.string text)
  | .stringPointer, text => some (.string text)
  | .bool, text => if text = "" then some (.bool false) else (parseBool text).map .bool
  | .boolPointer, text => if text = "" then some (.bool false) else (parseBool text).map .bool
  | .int, text => if text = "" then some (.int 0) else (parseInt text).map .int
  | .intPointer, text => if text = "" then some (.int 0) else (parseInt text).map .int
  | .strings, text => some (.strings [text])
  | .optionalInt, _ => none
  | .any, _ => none

/-- Bind the fields that carry a tag from the values of its source. -/
def bindData (tag : Field → Option String) (lookup : String → Option String) :
    List Field → Record → Option Record
  | [], record => some record
  | field :: rest, record =>
    match (tag field).bind lookup, field.shape with
    | none, _ => bindData tag lookup rest record
    | some text, .scalar scalar =>
      (parseScalar scalar text).bind fun value =>
        bindData tag lookup rest (Function.update record field.name value)
    | some _, _ => none

/-- The values of an empty struct. -/
def zeroRecord (fields : List Field) : Record := fun name =>
  match fields.find? (fun field => field.name == name) with
  | some ⟨_, _, .scalar scalar, _, _, _⟩ => scalar.zero
  | _ => .nil

/-- The methods whose query string is bound. -/
def Method.bindsQuery : Method → Bool
  | .GET => true
  | .DELETE => true
  | .HEAD => true
  | _ => false

/-- The path values by parameter name, after decoding. -/
def Request.pathValue (request : Request) : String → Option String :=
  lookupValue (request.path.map fun (name, raw) => (name, pathUnescape raw))

/-- The query values that are bound. -/
def Request.queryValue (request : Request) : String → Option String :=
  lookupValue (if request.method.bindsQuery then request.query else [])

/-- The header values. -/
def Request.header (request : Request) : String → Option String := lookupHeader request.headers

/-- echo's `BindBody`: a request without content changes nothing. -/
def bindBody (type : StructType) (request : Request) (record : Record) : Option Record :=
  match request.body with
  | none => some record
  | some document => decode type.fields document record

/-- `Binder.Bind`: path, query, body and headers, in this order. -/
def bind (type : StructType) (request : Request) : Option Record := do
  let record ← bindData Field.param request.pathValue type.fields (zeroRecord type.fields)
  let record ← bindData Field.query request.queryValue type.fields record
  let record ← bindBody type request record
  bindData Field.header request.header type.fields record

/-- The text that the body gives a field, if it gives one. -/
def bodyText (type : StructType) (name : String) (request : Request) : Option String :=
  request.body.bind (documentText type.fields name)

/-- The text a string field has before the headers are bound: that of the body, else of the
query, else of the path. -/
def clientText (type : StructType) (field : Field) (request : Request) : String :=
  (bodyText type field.name request).getD <|
    (field.query.bind request.queryValue).getD <|
      (field.param.bind request.pathValue).getD ""

/-- The text a string field is bound to: its header wins when it is present. -/
def boundText (type : StructType) (field : Field) (request : Request) : String :=
  (field.header.bind request.header).getD (clientText type field request)

/-- A text without escapes splits into its own characters. -/
theorem splitEscapes_plain {text : List Char} (plain : '%' ∉ text) :
    splitEscapes text = some (text.map .inl) := by
  induction text with
  | nil => rfl
  | cons first rest ih =>
    have different : first ≠ '%' := by
      rintro rfl
      exact plain List.mem_cons_self
    unfold splitEscapes
    split <;> simp_all

/-- Plain characters are kept as they are. -/
theorem assemble_plain (text : List Char) : assemble 0 0 (text.map .inl) = text := by
  induction text with
  | nil => rfl
  | cons first rest ih => simp [assemble, ih]

/-- Decoding changes no path value without a percent sign. -/
theorem pathUnescape_plain {raw : String} (plain : '%' ∉ raw.toList) : pathUnescape raw = raw := by
  simp [pathUnescape, splitEscapes_plain plain, assemble_plain]

/-- Binding a tag changes only the names of the fields it is bound to. -/
theorem bindData_frame {tag : Field → Option String} {lookup : String → Option String}
    {fields : List Field} {record record' : Record} {name : String}
    (other : name ∉ fields.map Field.name)
    (bound : bindData tag lookup fields record = some record') : record' name = record name := by
  induction fields generalizing record with
  | nil =>
    cases bound
    rfl
  | cons field rest ih =>
    rw [List.map_cons, List.mem_cons, not_or] at other
    unfold bindData at bound
    split at bound
    · exact ih other.2 bound
    · obtain ⟨value, _, later⟩ := Option.bind_eq_some_iff.mp bound
      rw [ih other.2 later, Function.update_of_ne other.1]
    · cases bound

/-- Each field's own name is among the names it writes, in the order of the fields. -/
theorem fieldNames_sublist (fields : List Field) :
    (fields.map Field.name).Sublist (fields.flatMap Field.names) := by
  induction fields with
  | nil => exact List.Sublist.slnil
  | cons field rest ih =>
    exact (List.singleton_sublist.mpr field.name_mem_names).append ih

/-- A tagged source gives a string field its text, or leaves it alone. The induction is
over the fields, whose distinct names keep the other assignments away. -/
theorem bindData_text {tag : Field → Option String} {lookup : String → Option String}
    {fields : List Field} (distinct : (fields.map Field.name).Nodup) {field : Field}
    (member : field ∈ fields) (string : field.shape = .scalar .string) {record record' : Record}
    {text : String} (current : record field.name = .string text)
    (bound : bindData tag lookup fields record = some record') :
    record' field.name = .string (((tag field).bind lookup).getD text) := by
  induction fields generalizing record with
  | nil => cases member
  | cons head rest ih =>
    rw [List.map_cons, List.nodup_cons] at distinct
    unfold bindData at bound
    rcases List.mem_cons.mp member with rfl | later
    · simp only [string] at bound
      cases given : (tag field).bind lookup with
      | none =>
        simp only [given] at bound
        simpa [given] using (bindData_frame distinct.1 bound).trans current
      | some value =>
        simp only [given, parseScalar, Option.bind_some] at bound
        rw [bindData_frame distinct.1 bound, Function.update_self]
        simp
    · have different : field.name ≠ head.name := by
        intro same
        exact distinct.1 (same ▸ List.mem_map_of_mem later)
      split at bound
      · exact ih distinct.2 later current bound
      · obtain ⟨value, _, rest⟩ := Option.bind_eq_some_iff.mp bound
        refine ih distinct.2 later ?_ rest
        rw [Function.update_of_ne different, current]
      · cases bound

/-- An empty struct holds the empty string in its string fields. -/
theorem zeroRecord_text (type : StructType) {field : Field} (member : field ∈ type.fields)
    (string : field.shape = .scalar .string) :
    zeroRecord type.fields field.name = .string "" := by
  unfold zeroRecord
  cases found : type.fields.find? (fun candidate => candidate.name == field.name) with
  | none => simpa using List.find?_eq_none.mp found field member
  | some candidate =>
    have named : candidate.name = field.name := by simpa using List.find?_some found
    have same : candidate = field :=
      type.eq_of_common_name (List.mem_of_find?_eq_some found) member
        (named ▸ candidate.name_mem_names) field.name_mem_names
    subst same
    obtain ⟨name, key, shape, param, query, header⟩ := candidate
    subst string
    rfl

/-- What binding leaves in a string field. -/
theorem bind_text (type : StructType) {field : Field} (member : field ∈ type.fields)
    (string : field.shape = .scalar .string) {request : Request} {record : Record}
    (bound : bind type request = some record) :
    record field.name = .string (boundText type field request) := by
  have distinct : (type.fields.map Field.name).Nodup :=
    type.distinct.sublist (fieldNames_sublist type.fields)
  obtain ⟨fromPath, path, rest⟩ := Option.bind_eq_some_iff.mp bound
  obtain ⟨fromQuery, query, rest⟩ := Option.bind_eq_some_iff.mp rest
  obtain ⟨fromBody, body, headers⟩ := Option.bind_eq_some_iff.mp rest
  have afterPath :=
    bindData_text distinct member string (zeroRecord_text type member string) path
  have afterQuery := bindData_text distinct member string afterPath query
  have afterBody : fromBody field.name = .string (clientText type field request) := by
    unfold clientText bodyText
    unfold bindBody at body
    cases content : request.body with
    | none =>
      rw [content] at body
      cases body
      simpa using afterQuery
    | some document =>
      rw [content] at body
      exact decode_text type member string afterQuery body
  exact bindData_text distinct member string afterBody headers

end ShellHub.RequestBinding
