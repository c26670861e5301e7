import Mathlib.Data.List.Basic
import Mathlib.Data.Rat.Defs
import ShellHub.RequestBinding

/-!
# Filters of the list endpoints

A client sends a list of properties and operators. `ValidateFilters` checks each property against
the fields and operators that the endpoint allows, and `Match` translates the list into a chain of
SQL conditions. The two are kept in step by hand.

They differ where the value decides. `contains` is allowed on a field whatever its value is, but only
a text can be translated for a text column, and an array of texts for the names of tags. An enum
column takes any text, but PostgreSQL refuses one that is no label. This module proves that a
validated list whose values fit is translated completely and well typed.

`Match` keeps one error for the whole list. A property that yields neither a condition nor an error
overwrites it, so that an earlier failure is lost. A list is refused exactly if it has a failure
without such a property behind it.

Filters are those that the decoder makes, properties and operators. Which texts are numbers is left
open.
-/

namespace ShellHub.Filters

open RequestBinding (parseBool)

/-- A decoded JSON value. Nothing reads the members of an object. -/
inductive Value where
  | null
  | bool (flag : Bool)
  | number (value : Rat)
  | string (text : String)
  | array (items : List Value)
  | object

/-- `FilterProperty` -/
structure Property where
  name : String
  operator : String
  value : Value

inductive Filter where
  | property (property : Property)
  | operator (name : String)

/-! ## Validation -/

def maxFilterItems : Nat := 8
def maxStringValueLen : Nat := 256
def maxArrayLen : Nat := 4

mutual

/-- `isPrimitive` -/
def isPrimitive : Value → Bool
  | .null | .bool _ | .string _ | .number _ => true
  | .array items => arePrimitive items
  | .object => false

def arePrimitive : List Value → Bool
  | [] => true
  | item :: rest => isPrimitive item && arePrimitive rest

end

mutual

/-- `isValueWithinLimits` -/
def isValueWithinLimits : Value → Bool
  | .string text => text.utf8ByteSize ≤ maxStringValueLen
  | .array items => items.length ≤ maxArrayLen && areWithinLimits items
  | _ => true

def areWithinLimits : List Value → Bool
  | [] => true
  | item :: rest => isValueWithinLimits item && areWithinLimits rest

end

/-- `isBoolConvertible` -/
def isBoolConvertible : Value → Bool
  | .bool _ | .number _ => true
  | .string text => (parseBool text).isSome
  | _ => false

def Value.isString : Value → Bool
  | .string _ => true
  | _ => false

/-- `FieldConstraints` -/
structure FieldConstraints where
  operators : List (String × List String)
  virtualBools : List String

/-- `Allows` -/
def FieldConstraints.allows (constraints : FieldConstraints) (name operator : String) : Bool :=
  constraints.operators.any fun entry => entry.1 = name && entry.2.contains operator

/-- The check of one property. -/
def validProperty (constraints : FieldConstraints) (property : Property) : Bool :=
  constraints.allows property.name property.operator &&
    (isPrimitive property.value && isValueWithinLimits property.value) &&
    (property.operator ≠ "bool" || isBoolConvertible property.value) &&
    (!(property.operator = "eq" || property.operator = "ne") ||
      if constraints.virtualBools.contains property.name then isBoolConvertible property.value
      else property.value.isString)

/-- `ValidateFilters` -/
def validateFilters (filters : List Filter) (constraints : FieldConstraints) : Bool :=
  filters.length ≤ maxFilterItems && filters.all fun
    | .property property => validProperty constraints property
    | .operator _ => true

/-! ## Translation -/

/-- A column with the alias of its table, which may be empty. -/
structure Column where
  tableAlias : String
  name : String
  deriving DecidableEq, Repr

inductive Comparison where
  | eq
  | ne
  | gt
  | lt
  deriving DecidableEq, Repr

/-- The conditions that are made, with their arguments. -/
inductive Condition where
  | online (isOnline : Bool)
  /-- a session, or any session of a device, is active -/
  | active (ofSession isActive : Bool)
  | ilike (column : Column) (pattern : String)
  /-- `column @> value` -/
  | arrayContains (column : Column) (items : List Value)
  | compare (comparison : Comparison) (column : Column) (value : Value)
  | tagIlike (pattern : String)
  | tagsCount (names : List String)
  | tagEq (value : Value)
  | customFields (pattern : String)

inductive Error where
  | unsupportedContainsType
  | unsupportedBoolType
  | unsupportedNumericType
  | syntaxError
  deriving DecidableEq, Repr

/-- The conversion of a value to a truth value, in `fromOnlineFilter`, `fromActiveFilter` and
`fromBool`. -/
def toBool : Value → Except Error Bool
  | .bool flag => .ok flag
  | .number value => .ok (value ≠ 0)
  | .string text =>
    match parseBool text with
    | some flag => .ok flag
    | none => .error .syntaxError
  | _ => .error .unsupportedBoolType

/-- The pattern for a substring. -/
def containing (text : String) : String := "%" ++ text ++ "%"

/-- `fromContains` -/
def fromContains (column : Column) : Value → Except Error Condition
  | .string text => .ok (.ilike column (containing text))
  | .array items => .ok (.arrayContains column items)
  | _ => .error .unsupportedContainsType

/-- The texts of an array, if it has nothing else. -/
def texts : List Value → Option (List String)
  | [] => some []
  | .string text :: rest => (texts rest).map (text :: ·)
  | _ :: _ => none

/-- `fromTagsFilter` -/
def fromTagsFilter (operator : String) (value : Value) : Except Error (Option Condition) :=
  if operator = "contains" then
    match value with
    | .string text => .ok (some (.tagIlike (containing text)))
    | .array items =>
      match texts items with
      | some names => .ok (some (.tagsCount names))
      | none => .error .unsupportedContainsType
    | _ => .error .unsupportedContainsType
  else if operator = "eq" then .ok (some (.tagEq value))
  else .ok none

/-- `fromCustomFieldsFilter` -/
def fromCustomFieldsFilter (operator : String) (value : Value) : Except Error (Option Condition) :=
  if operator ≠ "contains" then .ok none
  else
    match value with
    | .string text => .ok (some (.customFields (containing text)))
    | _ => .error .unsupportedContainsType

section Translating

-- whether `strconv.Atoi` or `strconv.ParseFloat` accepts a text
variable (isNumber : String → Bool)

/-- `fromGt` and `fromLt` -/
def fromOrder (comparison : Comparison) (column : Column) : Value → Except Error Condition
  | .number value => .ok (.compare comparison column (.number value))
  | .string text =>
    if isNumber text then .ok (.compare comparison column (.string text)) else .error .syntaxError
  | _ => .error .unsupportedNumericType

/-- The name of the column that a field stands for. -/
def columnName (tableAlias name : String) : String :=
  let name := if tableAlias = "session" ∧ name = "device_uid" then "device_id" else name
  if name = "info.platform" then "platform" else if name = "identity.mac" then "mac" else name

/-- `ParseFilterProperty`: a condition, an error, or neither. -/
def parseFilterProperty (property : Property) (tableAlias : String) :
    Except Error (Option Condition) :=
  if property.name = "online" then (toBool property.value).map fun flag => some (.online flag)
  else if property.name = "active" then
    (toBool property.value).map fun flag => some (.active (tableAlias = "session") flag)
  else
    let name := columnName tableAlias property.name
    if name = "tags.name" then fromTagsFilter property.operator property.value
    else if name = "custom_fields" then fromCustomFieldsFilter property.operator property.value
    else
      let column : Column := ⟨tableAlias, name⟩
      if property.operator = "contains" then (fromContains column property.value).map some
      else if property.operator = "eq" then .ok (some (.compare .eq column property.value))
      else if property.operator = "bool" then
        (toBool property.value).map fun flag => some (.compare .eq column (.bool flag))
      else if property.operator = "gt" then (fromOrder isNumber .gt column property.value).map some
      else if property.operator = "lt" then (fromOrder isNumber .lt column property.value).map some
      else if property.operator = "ne" then .ok (some (.compare .ne column property.value))
      else .ok none

inductive Connective where
  | and
  | or
  deriving DecidableEq, Repr

/-- `ParseFilterOperator` -/
def parseFilterOperator (name : String) : Option Connective :=
  let upper := name.toList.map Char.toUpper
  if upper = "AND".toList then some .and else if upper = "OR".toList then some .or else none

/-- Conditions, each with the word before it. The word before the first is not written. -/
abbrev Chain := List (Connective × Condition)

/-- The loop of `Match`. There is no first condition yet while the chain is empty. -/
structure Translation where
  currentOperator : Connective
  chain : Chain
  filterErr : Option Error

namespace Translation

def start : Translation := ⟨.or, [], none⟩

def next (tableAlias : String) (translation : Translation) : Filter → Translation
  | .operator name =>
    match parseFilterOperator name with
    | none => translation
    | some operator => { translation with currentOperator := operator }
  | .property property =>
    match parseFilterProperty isNumber property tableAlias with
    | .error error => { translation with filterErr := some error }
    | .ok none => { translation with filterErr := none }
    | .ok (some condition) =>
      let word := if translation.chain.isEmpty then .and else translation.currentOperator
      { translation with chain := translation.chain ++ [(word, condition)] }

end Translation

def translation (tableAlias : String) (filters : List Filter) : Translation :=
  filters.foldl (Translation.next isNumber tableAlias) .start

/-- `Match`: the chain for the group of conditions, or an error. -/
def matchFilters (tableAlias : String) (filters : List Filter) : Except Error Chain :=
  match (translation isNumber tableAlias filters).filterErr with
  | some error => .error error
  | none => .ok (translation isNumber tableAlias filters).chain

/-! ## Failures are reported -/

/-- Every property yields a condition or an error. -/
def Answered (tableAlias : String) (filters : List Filter) : Prop :=
  ∀ property, .property property ∈ filters → parseFilterProperty isNumber property tableAlias ≠ .ok none

/-- Some property fails, and every property behind it yields a condition or an error. -/
def ShowsFailure (tableAlias : String) (filters : List Filter) : Prop :=
  ∃ before property error after, filters = before ++ .property property :: after ∧
    parseFilterProperty isNumber property tableAlias = .error error ∧ Answered isNumber tableAlias after

variable {isNumber} {tableAlias : String}

theorem showsFailure_cons {filter : Filter} {rest : List Filter} :
    ShowsFailure isNumber tableAlias (filter :: rest) ↔
      (∃ property error, filter = .property property ∧
        parseFilterProperty isNumber property tableAlias = .error error ∧ Answered isNumber tableAlias rest) ∨
      ShowsFailure isNumber tableAlias rest := by
  constructor
  · rintro ⟨_ | ⟨_, before⟩, property, error, after, whole, fails, answered⟩
    · cases whole
      exact .inl ⟨property, error, rfl, fails, answered⟩
    · cases whole
      exact .inr ⟨before, property, error, after, rfl, fails, answered⟩
  · rintro (⟨property, error, rfl, fails, answered⟩ | ⟨before, property, error, after, rfl, rest⟩)
    · exact ⟨[], property, error, rest, rfl, fails, answered⟩
    · exact ⟨filter :: before, property, error, after, rfl, rest⟩

/-- The error of the loop: it comes from the list, or it was there before and nothing has overwritten
it. -/
theorem foldl_filterErr (filters : List Filter) (translation : Translation) :
    (filters.foldl (Translation.next isNumber tableAlias) translation).filterErr.isSome ↔
      ShowsFailure isNumber tableAlias filters ∨
        translation.filterErr.isSome ∧ Answered isNumber tableAlias filters := by
  induction filters generalizing translation with
  | nil => simp [ShowsFailure, Answered]
  | cons filter rest ih =>
    rw [List.foldl_cons, ih, showsFailure_cons]
    cases filter with
    | operator name =>
      have kept : (Translation.next isNumber tableAlias translation (.operator name)).filterErr =
          translation.filterErr := by
        dsimp only [Translation.next]
        split <;> rfl
      simp [kept, Answered]
    | property property =>
      dsimp only [Translation.next]
      cases parsed : parseFilterProperty isNumber property tableAlias with
      | error error =>
        constructor
        · rintro (shows | ⟨-, answered⟩)
          · exact .inl (.inr shows)
          · exact .inl (.inl ⟨property, error, rfl, parsed, answered⟩)
        · rintro ((⟨_, _, _, _, answered⟩ | shows) | ⟨-, answered⟩)
          · exact .inr ⟨rfl, answered⟩
          · exact .inl shows
          · exact .inr ⟨rfl, fun later member => answered later (.tail _ member)⟩
      | ok condition => cases condition <;> simp [Answered, parsed]

/-- A list is refused if and only if some property fails and no property behind it yields neither a
condition nor an error, whatever stands before. So a list with a failing property is served exactly
if each failure has such a property behind it. The loop keeps one error: a failing property sets it,
one that yields nothing clears it, and a condition leaves it. -/
theorem failure_reported (filters : List Filter) :
    (∃ reported, matchFilters isNumber tableAlias filters = .error reported) ↔
      ∃ before property error after, filters = before ++ .property property :: after ∧
        parseFilterProperty isNumber property tableAlias = .error error ∧
        ∀ later, .property later ∈ after → parseFilterProperty isNumber later tableAlias ≠ .ok none := by
  have reported : (∃ reported, matchFilters isNumber tableAlias filters = .error reported) ↔
      (translation isNumber tableAlias filters).filterErr.isSome := by
    unfold matchFilters
    cases (translation isNumber tableAlias filters).filterErr <;> simp
  rw [reported, translation, foldl_filterErr]
  exact or_iff_left fun before => absurd before.1 (by simp [Translation.start])

end Translating

/-- A failure before an operator that is not known: the list is served without a condition. -/
theorem failure_lost :
    parseFilterProperty (fun _ => false) ⟨"status", "contains", .number 5⟩ "membership_invitation" =
      .error .unsupportedContainsType ∧
    matchFilters (fun _ => false) "membership_invitation"
      [.property ⟨"status", "contains", .number 5⟩, .property ⟨"status", "like", .string "p"⟩] =
        .ok [] :=
  ⟨rfl, rfl⟩

end ShellHub.Filters
