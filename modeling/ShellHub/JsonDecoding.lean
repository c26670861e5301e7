import Mathlib.Algebra.Group.Int.Defs
import Mathlib.Data.List.Nodup
import Mathlib.Data.List.Pairwise
import Mathlib.Logic.Function.Basic
import ShellHub.LetterCase

/-!
# Decoding JSON into tagged structs

Go's `encoding/json` fills a struct member by member. A member's key is compared with the
names of the fields, first exactly and then ignoring case; a field without a json tag goes
by its Go name. A `null` leaves a plain field as it is, a later member overwrites an
earlier one, and a value of the wrong type fails the whole decoding.

A struct type is the list of its fields, and a struct value maps Go field names to values.
The main result says what a string field holds afterwards: the last string among the
members that select it, or its old content when there is none.
-/

namespace ShellHub.JsonDecoding

open LetterCase (foldName)

/-- A parsed JSON document. Numbers keep their literal, and an object keeps its members in
order with repetitions. -/
inductive Json where
  | null
  | bool (flag : Bool)
  | number (literal : String)
  | string (text : String)
  | array (items : List Json)
  | object (members : List (String × Json))

/-- The Go types a single field can have. -/
inductive Scalar where
  | string
  | bool
  | int
  | stringPointer
  | boolPointer
  | intPointer
  | strings
  | optionalInt
  | any
  deriving DecidableEq

/-- The content of a field. `nil` is an unset pointer, slice or interface, and `marked` is
an integer type that remembers that it was present, even as `null`. -/
inductive Value where
  | string (text : String)
  | bool (flag : Bool)
  | int (number : Int)
  | strings (items : List String)
  | marked (number : Option Int)
  | json (document : Json)
  | nil

/-- A struct value, by Go field name. -/
abbrev Record := String → Value

/-- The text of a string field. -/
def Record.text (record : Record) (name : String) : String :=
  match record name with
  | .string text => text
  | _ => ""

/-- Go's zero value of a field type. -/
def Scalar.zero : Scalar → Value
  | .string => .string ""
  | .bool => .bool false
  | .int => .int 0
  | _ => .nil

/-- Read decimal digits into an accumulator. -/
def parseDigits : List Char → Nat → Option Nat
  | [], value => some value
  | digit :: rest, value =>
    if digit.isDigit then parseDigits rest (10 * value + (digit.toNat - '0'.toNat)) else none

/-- Go's 64-bit `strconv.ParseInt` in base ten. -/
def parseInt (text : String) : Option Int :=
  let bounded (value : Int) := if -2 ^ 63 ≤ value ∧ value < 2 ^ 63 then some value else none
  match text.toList with
  | [] => none
  | ['-'] => none
  | ['+'] => none
  | '-' :: digits => (parseDigits digits 0).bind fun value => bounded (-value)
  | '+' :: digits => (parseDigits digits 0).bind fun value => bounded value
  | digits => (parseDigits digits 0).bind fun value => bounded value

/-- One element of a string slice. A `null` element stays the empty string. -/
def decodeElement : Json → Option String
  | .null => some ""
  | .string text => some text
  | _ => none

/-- Decode one value into a field that has the given content. -/
def decodeScalar : Scalar → Value → Json → Option Value
  | .any, _, document => some (.json document)
  | .optionalInt, _, .null => some (.marked none)
  | .optionalInt, _, .number literal => (parseInt literal).map fun value => .marked (some value)
  | .string, current, .null => some current
  | .bool, current, .null => some current
  | .int, current, .null => some current
  | _, _, .null => some .nil
  | .string, _, .string text => some (.string text)
  | .stringPointer, _, .string text => some (.string text)
  | .bool, _, .bool flag => some (.bool flag)
  | .boolPointer, _, .bool flag => some (.bool flag)
  | .int, _, .number literal => (parseInt literal).map .int
  | .intPointer, _, .number literal => (parseInt literal).map .int
  | .strings, _, .array items => (items.mapM decodeElement).map .strings
  | _, _, _ => none

/-- The item whose key is the given one, else the first one equal to it up to case. -/
def selectKey {τ : Type} (keyOf : τ → Option String) (items : List τ) (key : String) : Option τ :=
  (items.find? fun item => keyOf item == some key).or
    (items.find? fun item => (keyOf item).any fun name => foldName name == foldName key)

/-- A field of a struct nested in a request. -/
structure Slot where
  name : String
  key : String
  scalar : Scalar

/-- Decode the members of a nested object into its slots. -/
def decodeSlots (slots : List Slot) : List (String × Json) → Record → Option Record
  | [], record => some record
  | (key, document) :: rest, record =>
    match selectKey (fun slot => some slot.key) slots key with
    | none => decodeSlots slots rest record
    | some slot =>
      (decodeScalar slot.scalar (record slot.name) document).bind fun value =>
        decodeSlots slots rest (Function.update record slot.name value)

/-- How a field is decoded: as one value, as a nested struct whose slots carry their own
names, or by an `UnmarshalJSON` of its own that keeps the document it accepts. -/
inductive Shape where
  | scalar (scalar : Scalar)
  | nested (slots : List Slot)
  | custom (accepts : Json → Bool)

/-- A struct field: its Go name, the key `encoding/json` uses (none for `json:"-"`), the
names it is bound under from the path, the query and the headers, and its type. -/
structure Field where
  name : String
  key : Option String
  shape : Shape
  param : Option String
  query : Option String
  header : Option String

/-- The record names a field writes. -/
def Field.names (field : Field) : List String :=
  match field.shape with
  | .nested slots => field.name :: slots.map Slot.name
  | _ => [field.name]

/-- A struct type. Distinct fields write distinct names of a record. -/
structure StructType where
  fields : List Field
  distinct : (fields.flatMap Field.names).Nodup

/-- Decode one member's value into the field it selected. -/
def decodeField (field : Field) (document : Json) (record : Record) : Option Record :=
  match field.shape, document with
  | .scalar scalar, _ =>
    (decodeScalar scalar (record field.name) document).map (Function.update record field.name)
  | .nested _, .null => some record
  | .nested slots, .object members => decodeSlots slots members record
  | .nested _, _ => none
  | .custom accepts, _ =>
    if accepts document then some (Function.update record field.name (.json document)) else none

/-- The field that a member's key selects. -/
def selectField (fields : List Field) (key : String) : Option Field :=
  selectKey Field.key fields key

/-- Decode an object's members in order. A key that selects no field is skipped. -/
def decodeMembers (fields : List Field) : List (String × Json) → Record → Option Record
  | [], record => some record
  | (key, document) :: rest, record =>
    match selectField fields key with
    | none => decodeMembers fields rest record
    | some field => (decodeField field document record).bind (decodeMembers fields rest)

/-- Decode a document into a struct: `null` changes nothing, and only an object fits. -/
def decode (fields : List Field) : Json → Record → Option Record
  | .null, record => some record
  | .object members, record => decodeMembers fields members record
  | _, _ => none

/-- The members of an object that select a field. -/
def selecting (fields : List Field) (name : String) : List (String × Json) → List Json
  | [] => []
  | (key, document) :: rest =>
    if (selectField fields key).any (fun field => field.name == name) then
      document :: selecting fields name rest
    else selecting fields name rest

/-- The last string among some documents. -/
def lastText : List Json → Option String
  | [] => none
  | .string text :: rest => (lastText rest).or (some text)
  | _ :: rest => lastText rest

/-- The text that a document gives a string field, if it gives one. -/
def documentText (fields : List Field) (name : String) : Json → Option String
  | .object members => lastText (selecting fields name members)
  | _ => none

/-- The selected item is one of the items. -/
theorem selectKey_mem {τ : Type} {keyOf : τ → Option String} {items : List τ} {key : String}
    {item : τ} (selected : selectKey keyOf items key = some item) : item ∈ items := by
  rcases Option.or_eq_some_iff.mp selected with found | ⟨_, found⟩
  · exact List.mem_of_find?_eq_some found
  · exact List.mem_of_find?_eq_some found

/-- A field writes its own name. -/
theorem Field.name_mem_names (field : Field) : field.name ∈ field.names := by
  unfold Field.names
  split <;> simp

/-- Two fields of a struct type that write a common name are the same field. -/
theorem StructType.eq_of_common_name (type : StructType) {left right : Field} {name : String}
    (leftMember : left ∈ type.fields) (rightMember : right ∈ type.fields)
    (leftName : name ∈ left.names) (rightName : name ∈ right.names) : left = right := by
  by_contra different
  have apart := (List.nodup_flatMap.mp type.distinct).2
  have symmetric : Std.Symm (Function.onFun List.Disjoint Field.names) :=
    ⟨fun _ _ disjoint _ inLeft inRight => disjoint inRight inLeft⟩
  exact apart.forall leftMember rightMember different leftName rightName

/-- Decoding a nested object changes only the names of its slots. -/
theorem decodeSlots_frame {slots : List Slot} {members : List (String × Json)}
    {record record' : Record} {name : String} (other : name ∉ slots.map Slot.name)
    (decoded : decodeSlots slots members record = some record') : record' name = record name := by
  induction members generalizing record with
  | nil =>
    cases decoded
    rfl
  | cons member rest ih =>
    obtain ⟨key, document⟩ := member
    unfold decodeSlots at decoded
    cases selected : selectKey (fun slot => some slot.key) slots key with
    | none =>
      rw [selected] at decoded
      exact ih decoded
    | some slot =>
      rw [selected] at decoded
      obtain ⟨value, _, later⟩ := Option.bind_eq_some_iff.mp decoded
      have different : name ≠ slot.name := by
        rintro rfl
        exact other (List.mem_map.mpr ⟨slot, selectKey_mem selected, rfl⟩)
      rw [ih later, Function.update_of_ne different]

/-- Decoding a field's value changes only the names the field writes. -/
theorem decodeField_frame {field : Field} {document : Json} {record record' : Record}
    {name : String} (other : name ∉ field.names)
    (decoded : decodeField field document record = some record') :
    record' name = record name := by
  have different : name ≠ field.name := by
    rintro rfl
    exact other field.name_mem_names
  unfold decodeField at decoded
  unfold Field.names at other
  split at decoded
  · obtain ⟨value, _, rfl⟩ := Option.map_eq_some_iff.mp decoded
    exact Function.update_of_ne different _ _
  · cases decoded
    rfl
  · rename_i slots members shape
    rw [shape] at other
    exact decodeSlots_frame (fun member => other (List.mem_cons_of_mem _ member)) decoded
  · cases decoded
  · split at decoded
    · cases decoded
      exact Function.update_of_ne different _ _
    · cases decoded

/-- A string field takes the string it is given and keeps its content under `null`. -/
theorem decodeField_text {field : Field} {document : Json} {record record' : Record}
    {text : String} (string : field.shape = .scalar .string)
    (current : record field.name = .string text)
    (decoded : decodeField field document record = some record') :
    record' field.name = .string ((lastText [document]).getD text) := by
  simp only [decodeField, string] at decoded
  obtain ⟨value, scalar, rfl⟩ := Option.map_eq_some_iff.mp decoded
  cases document with
  | null =>
    cases scalar
    simpa [lastText] using current
  | string given =>
    cases scalar
    simp [lastText]
  | _ => cases scalar

/-- The last string of a list is the last one of its tail, else that of its head. -/
theorem lastText_cons (document : Json) (rest : List Json) :
    lastText (document :: rest) = (lastText rest).or (lastText [document]) := by
  cases document <;> simp [lastText]

/-- After decoding an object, a string field holds the last string among the members that
select it, or its old content. The induction follows the members: each one either selects
the field, or writes names the field does not own. -/
theorem decodeMembers_text (type : StructType) {field : Field} (member : field ∈ type.fields)
    (string : field.shape = .scalar .string) {members : List (String × Json)}
    {record record' : Record} {text : String} (current : record field.name = .string text)
    (decoded : decodeMembers type.fields members record = some record') :
    record' field.name =
      .string ((lastText (selecting type.fields field.name members)).getD text) := by
  induction members generalizing record text with
  | nil =>
    cases decoded
    simpa [selecting, lastText] using current
  | cons pair rest ih =>
    obtain ⟨key, document⟩ := pair
    unfold decodeMembers at decoded
    cases selected : selectField type.fields key with
    | none =>
      simp only [selected] at decoded
      simpa [selecting, selected] using ih current decoded
    | some chosen =>
      simp only [selected] at decoded
      obtain ⟨middle, first, later⟩ := Option.bind_eq_some_iff.mp decoded
      by_cases same : chosen.name = field.name
      · have chosenField : chosen = field :=
          type.eq_of_common_name (selectKey_mem selected) member
            (same ▸ chosen.name_mem_names) field.name_mem_names
        subst chosenField
        rw [ih (decodeField_text string current first) later]
        simp only [selecting, selected, Option.any_some, beq_self_eq_true, if_true]
        rw [lastText_cons document (selecting type.fields chosen.name rest)]
        cases lastText (selecting type.fields chosen.name rest) <;> simp
      · have untouched : field.name ∉ chosen.names := by
          intro written
          exact same (congrArg Field.name (type.eq_of_common_name (selectKey_mem selected)
            member written field.name_mem_names))
        rw [ih ((decodeField_frame untouched first).trans current) later]
        simp [selecting, selected, same]

/-- After decoding a document, a string field holds the text the document gives it, or its
old content. -/
theorem decode_text (type : StructType) {field : Field} (member : field ∈ type.fields)
    (string : field.shape = .scalar .string) {document : Json} {record record' : Record}
    {text : String} (current : record field.name = .string text)
    (decoded : decode type.fields document record = some record') :
    record' field.name =
      .string ((documentText type.fields field.name document).getD text) := by
  cases document with
  | null =>
    cases decoded
    simpa [documentText] using current
  | object members => exact decodeMembers_text type member string current decoded
  | _ => cases decoded

end ShellHub.JsonDecoding
