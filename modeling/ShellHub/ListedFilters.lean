import ShellHub.Filters

/-!
# Validated filters and their columns

Each list endpoint has its own fields, and a table with columns of certain types. A condition is
accepted by PostgreSQL if it applies an operator that is defined for the type of its column and of
its value. The conditions on tags and on custom fields refer to the table of devices.

A list that passes validation is translated with one condition for each property, all of them
accepted, if and only if its values fit.
-/

namespace ShellHub.ListedFilters

open Filters

/-- The list endpoints that validate their filters. -/
inductive Listing where
  | devices
  | sessions
  | publicKeys
  | namespaces
  deriving DecidableEq, Repr

/-- The types of the columns that may be filtered. -/
inductive ColumnType where
  | text
  | enum (labels : List String)
  | boolean
  deriving DecidableEq, Repr

def deviceStatus : ColumnType := .enum ["accepted", "pending", "rejected", "removed", "unused"]

def namespaceScope : ColumnType := .enum ["personal", "team"]

/-- `DeviceFilterFields` -/
def deviceFilterFields : FieldConstraints where
  operators :=
    [("name", ["contains", "eq", "ne"]), ("status", ["eq", "ne"]), ("mac", ["contains", "eq", "ne"]),
      ("platform", ["contains", "eq", "ne"]), ("tags.name", ["contains", "eq"]),
      ("online", ["bool", "eq"]), ("custom_fields", ["contains"]),
      ("info.platform", ["contains", "eq", "ne"]), ("identity.mac", ["contains", "eq", "ne"])]
  virtualBools := ["online"]

/-- `SessionFilterFields` -/
def sessionFilterFields : FieldConstraints where
  operators := [("device_uid", ["eq", "ne"]), ("closed", ["bool"]), ("active", ["bool"])]
  virtualBools := ["active"]

/-- `PublicKeyFilterFields` -/
def publicKeyFilterFields : FieldConstraints where
  operators := [("name", ["contains", "eq", "ne"]), ("fingerprint", ["contains", "eq", "ne"])]
  virtualBools := []

/-- `NamespaceFilterFields` -/
def namespaceFilterFields : FieldConstraints where
  operators := [("name", ["contains", "eq", "ne"]), ("type", ["eq", "ne"])]
  virtualBools := []

namespace Listing

def constraints : Listing → FieldConstraints
  | .devices => deviceFilterFields
  | .sessions => sessionFilterFields
  | .publicKeys => publicKeyFilterFields
  | .namespaces => namespaceFilterFields

/-- The alias of the table that the store sets. -/
def tableAlias : Listing → String
  | .devices => "device"
  | .sessions => "session"
  | .publicKeys | .namespaces => ""

/-- `ListNamespaces` renames fields by `namespaceFilterColumns`; the other services do not. -/
def renamed (listing : Listing) (property : Property) : Property :=
  if listing = .namespaces ∧ property.name = "type" then { property with name := "scope" }
  else property

/-- What the service hands to the store. -/
def prepared (listing : Listing) (filters : List Filter) : List Filter :=
  filters.map fun
    | .property property => .property (listing.renamed property)
    | .operator name => .operator name

def columns : Listing → List (String × ColumnType)
  | .devices => [("name", .text), ("status", deviceStatus), ("mac", .text), ("platform", .text)]
  | .sessions => [("device_id", .text), ("closed", .boolean)]
  | .publicKeys => [("name", .text), ("fingerprint", .text)]
  | .namespaces => [("name", .text), ("scope", namespaceScope)]

/-- The type of a column of the table. -/
def typeOf (listing : Listing) (column : Column) : Option ColumnType :=
  if column.tableAlias = listing.tableAlias then listing.columns.lookup column.name else none

/-- A comparison of a column with a literal. -/
def comparable (comparison : Comparison) (value : Value) : ColumnType → Prop
  | .text => (comparison = .eq ∨ comparison = .ne) ∧ value.isString
  | .enum labels =>
    (comparison = .eq ∨ comparison = .ne) ∧ ∃ label ∈ labels, value = .string label
  | .boolean => comparison = .eq ∧ ∃ flag, value = .bool flag

/-- PostgreSQL accepts the condition in a query of the list. None of the columns is an array, so
`@>` is never defined. -/
def Accepts (listing : Listing) : Condition → Prop
  | .online _ | .tagIlike _ | .tagsCount _ | .customFields _ => listing = .devices
  | .tagEq value => listing = .devices ∧ value.isString
  | .active ofSession _ => listing = .sessions ∧ ofSession = true
  | .ilike column _ => listing.typeOf column = some .text
  | .arrayContains _ _ => False
  | .compare comparison column value =>
    ∃ type, listing.typeOf column = some type ∧ comparable comparison value type

end Listing

/-- The value fits the field: `contains` has a text, or an array of texts for the names of tags, and
an enum column has one of its labels. -/
def Fitting (property : Property) : Prop :=
  (property.operator = "contains" → property.value.isString ∨
    property.name = "tags.name" ∧ ∃ items, property.value = .array items ∧ (texts items).isSome) ∧
  (property.name = "status" →
    ∃ label ∈ ["accepted", "pending", "rejected", "removed", "unused"], property.value = .string label) ∧
  (property.name = "type" → ∃ label ∈ ["personal", "team"], property.value = .string label)

/-- The property contributes a condition that PostgreSQL accepts. -/
def Executed (isNumber : String → Bool) (listing : Listing) (property : Property) : Prop :=
  ∃ condition, parseFilterProperty isNumber property listing.tableAlias = .ok (some condition) ∧
    listing.Accepts condition

section Properties

variable {isNumber : String → Bool}

/-- A value that validation takes for a truth value is converted. -/
theorem toBool_of_convertible {value : Value} (convertible : isBoolConvertible value) :
    ∃ flag, Filters.toBool value = .ok flag := by
  cases value with
  | string text =>
    obtain ⟨flag, parsed⟩ := Option.isSome_iff_exists.mp convertible
    exact ⟨flag, by simp [Filters.toBool, parsed]⟩
  | bool flag => exact ⟨flag, rfl⟩
  | number value => exact ⟨_, rfl⟩
  | null | array | object => cases convertible

section Columns

-- a property of a column of the table, which is none of the fields with a translation of their own
variable {listing : Listing} {property : Property} {column : String} {type : ColumnType}
  (plain : property.name ∉ ["online", "active"])
  (named : columnName listing.tableAlias property.name = column)
  (ordinary : column ∉ ["tags.name", "custom_fields"])
  (typed : listing.columns.lookup column = some type)

include plain named ordinary

/-- A known operator yields a condition or an error. -/
theorem column_answers
    (known : property.operator = "contains" ∨ property.operator = "eq" ∨ property.operator = "ne") :
    parseFilterProperty isNumber property listing.tableAlias ≠ .ok none := by
  simp only [List.mem_cons, List.not_mem_nil, or_false, not_or] at plain ordinary
  rcases known with operator | operator | operator
  · cases value : property.value <;>
      simp [parseFilterProperty, plain, named, ordinary, operator, value, fromContains, Except.map]
  · simp [parseFilterProperty, plain, named, ordinary, operator]
  · simp [parseFilterProperty, plain, named, ordinary, operator]

include typed

/-- Equality and inequality, with a value that can be compared. -/
theorem compared_iff {comparison : Comparison}
    (known : property.operator = "eq" ∧ comparison = .eq ∨
      property.operator = "ne" ∧ comparison = .ne) :
    Executed isNumber listing property ↔ Listing.comparable comparison property.value type := by
  simp only [List.mem_cons, List.not_mem_nil, or_false, not_or] at plain ordinary
  have parsed : parseFilterProperty isNumber property listing.tableAlias =
      .ok (some (.compare comparison ⟨listing.tableAlias, column⟩ property.value)) := by
    rcases known with ⟨operator, rfl⟩ | ⟨operator, rfl⟩ <;>
      simp [parseFilterProperty, plain, named, ordinary, operator]
  have column : listing.typeOf ⟨listing.tableAlias, column⟩ = some type := by
    rw [Listing.typeOf, if_pos rfl, typed]
  simp [Executed, parsed, Listing.Accepts, column]

/-- A text column takes texts. -/
theorem text_column_iff (text : type = .text)
    (known : property.operator = "contains" ∨ property.operator = "eq" ∨ property.operator = "ne") :
    Executed isNumber listing property ↔ property.value.isString := by
  subst text
  rcases known with operator | operator | operator
  · simp only [List.mem_cons, List.not_mem_nil, or_false, not_or] at plain ordinary
    have parsed : parseFilterProperty isNumber property listing.tableAlias =
        (fromContains ⟨listing.tableAlias, column⟩ property.value).map some := by
      simp [parseFilterProperty, plain, named, ordinary, operator]
    rw [Executed, parsed]
    cases property.value <;>
      simp [fromContains, Except.map, Value.isString, Listing.Accepts, Listing.typeOf, typed]
  · rw [compared_iff plain named ordinary typed (.inl ⟨operator, rfl⟩)]
    simp [Listing.comparable]
  · rw [compared_iff plain named ordinary typed (.inr ⟨operator, rfl⟩)]
    simp [Listing.comparable]

/-- An enum column takes its labels. -/
theorem enum_column_iff {labels : List String} (enum : type = .enum labels)
    (known : property.operator = "eq" ∨ property.operator = "ne") :
    Executed isNumber listing property ↔ ∃ label ∈ labels, property.value = .string label := by
  subst enum
  rcases known with operator | operator
  · rw [compared_iff plain named ordinary typed (.inl ⟨operator, rfl⟩)]
    simp [Listing.comparable]
  · rw [compared_iff plain named ordinary typed (.inr ⟨operator, rfl⟩)]
    simp [Listing.comparable]

end Columns

/-- The names of tags. -/
theorem tags_iff {property : Property} (named : property.name = "tags.name")
    (known : property.operator = "contains" ∨ property.operator = "eq")
    (equal : property.operator = "eq" → property.value.isString) :
    Executed isNumber .devices property ↔ (property.operator = "contains" → property.value.isString ∨
      ∃ items, property.value = .array items ∧ (texts items).isSome) := by
  have parsed : parseFilterProperty isNumber property Listing.devices.tableAlias =
      fromTagsFilter property.operator property.value := by
    simp [parseFilterProperty, named, columnName]
  rw [Executed, parsed]
  rcases known with operator | operator
  · cases value : property.value with
    | string text => simp [fromTagsFilter, operator, Value.isString, Listing.Accepts]
    | array items =>
      cases found : texts items <;>
        simp [fromTagsFilter, operator, Value.isString, Listing.Accepts, found]
    | null | bool | number | object => simp [fromTagsFilter, operator, Value.isString]
  · simp [fromTagsFilter, operator, Listing.Accepts, equal operator]

/-- The checks of a validated property, one by one. -/
theorem of_validProperty {constraints : FieldConstraints} {property : Property}
    (valid : validProperty constraints property) :
    (∃ entry ∈ constraints.operators, entry.1 = property.name ∧ property.operator ∈ entry.2) ∧
      (property.operator = "bool" → isBoolConvertible property.value) ∧
      (property.operator = "eq" ∨ property.operator = "ne" →
        if constraints.virtualBools.contains property.name then isBoolConvertible property.value
        else property.value.isString) := by
  simp only [validProperty, Bool.and_eq_true, Bool.or_eq_true, decide_eq_true_eq, Bool.not_eq_true',
    Bool.or_eq_false_iff, decide_eq_false_iff_not] at valid
  obtain ⟨⟨⟨allowed, -⟩, boolean⟩, equal⟩ := valid
  refine ⟨by simpa [FieldConstraints.allows] using allowed, fun operator => boolean.resolve_left (not_not_intro operator), fun operator => ?_⟩
  have checked := equal.resolve_left fun neither =>
    operator.elim neither.1 neither.2
  split at checked <;> simp_all

/-- A validated property of a text column fits if and only if it has a text. -/
theorem fitting_iff_isString {constraints : FieldConstraints} {property : Property}
    (valid : validProperty constraints property) (plain : property.name ∉ ["tags.name", "status", "type"])
    (real : property.name ∉ constraints.virtualBools)
    (known : property.operator = "contains" ∨ property.operator = "eq" ∨ property.operator = "ne") :
    Fitting property ↔ property.value.isString := by
  simp only [List.mem_cons, List.not_mem_nil, or_false, not_or] at plain
  constructor
  · intro fitting
    rcases known with operator | operator
    · exact (fitting.1 operator).resolve_right fun tags => plain.1 tags.1
    · have equal := (of_validProperty valid).2.2 operator
      rwa [if_neg (by simpa using real)] at equal
  · intro isString
    exact ⟨fun _ => .inl isString, fun named => absurd named plain.2.1, fun named => absurd named plain.2.2⟩

/-- A field that stands for a text column is executed if and only if its value fits, and it is not left
out. -/
theorem text_field {listing : Listing} {property : Property} {field : String} (column : String)
    (valid : validProperty listing.constraints property)
    (known : property.operator = "contains" ∨ property.operator = "eq" ∨ property.operator = "ne")
    (named : field = property.name) (plain : field ∉ ["online", "active", "tags.name", "status", "type"])
    (real : field ∉ listing.constraints.virtualBools)
    (translates : columnName listing.tableAlias field = column)
    (ordinary : column ∉ ["tags.name", "custom_fields"])
    (typed : listing.columns.lookup column = some .text) :
    (Executed isNumber listing property ↔ Fitting property) ∧
      parseFilterProperty isNumber property listing.tableAlias ≠ .ok none := by
  subst named
  simp only [List.mem_cons, List.not_mem_nil, or_false, not_or] at plain
  rw [text_column_iff (by simp [plain]) translates ordinary typed rfl known,
    fitting_iff_isString valid (by simp [plain]) real known]
  exact ⟨Iff.rfl, column_answers (by simp [plain]) translates ordinary known⟩

/-- A field of truth values, with a value that can be converted. -/
theorem boolean_field {listing : Listing} {property : Property} (condition : Condition)
    (plain : property.operator ≠ "contains" ∧ property.name ≠ "status" ∧ property.name ≠ "type")
    (parsed : parseFilterProperty isNumber property listing.tableAlias = .ok (some condition))
    (accepted : listing.Accepts condition) :
    (Executed isNumber listing property ↔ Fitting property) ∧
      parseFilterProperty isNumber property listing.tableAlias ≠ .ok none := by
  refine ⟨iff_of_true ⟨condition, parsed, accepted⟩ ⟨fun operator => absurd operator plain.1,
    fun named => absurd named plain.2.1, fun named => absurd named plain.2.2⟩, ?_⟩
  simp [parsed]

/-- A validated property of a device list is executed if and only if its value fits, and it is not left
out. -/
theorem device_executed {property : Property} (valid : validProperty deviceFilterFields property) :
    (Executed isNumber .devices property ↔ Fitting property) ∧
      parseFilterProperty isNumber property "device" ≠ .ok none := by
  obtain ⟨allowed, boolean, equal⟩ := of_validProperty valid
  simp only [deviceFilterFields, List.mem_cons, List.not_mem_nil, or_false, exists_eq_or_imp,
    exists_eq_left] at allowed
  rcases allowed with ⟨named, known⟩ | ⟨named, known⟩ | ⟨named, known⟩ | ⟨named, known⟩ |
    ⟨named, known⟩ | ⟨named, known⟩ | ⟨named, operator⟩ | ⟨named, known⟩ | ⟨named, known⟩
  · exact text_field "name" valid known named (by decide) (by decide) rfl (by decide) rfl
  · have column : columnName Listing.devices.tableAlias property.name = "status" := by rw [← named]; rfl
    refine ⟨?_, column_answers (by simp [← named]) column (by decide) (.inr known)⟩
    rw [enum_column_iff (by simp [← named]) column (by decide) rfl rfl known]
    rcases known with operator | operator <;> simp [Fitting, ← named, operator]
  · exact text_field "mac" valid known named (by decide) (by decide) rfl (by decide) rfl
  · exact text_field "platform" valid known named (by decide) (by decide) rfl (by decide) rfl
  · constructor
    · rw [tags_iff named.symm known fun operator => by
        simpa [deviceFilterFields, ← named] using equal (.inl operator)]
      simp [Fitting, ← named]
    · rcases known with operator | operator
      · simp only [parseFilterProperty, columnName, ← named, fromTagsFilter, operator]
        cases property.value <;> simp
        split <;> simp
      · simp [parseFilterProperty, columnName, ← named, fromTagsFilter, operator]
  · have convertible : isBoolConvertible property.value := by
      rcases known with operator | operator
      · exact boolean operator
      · simpa [deviceFilterFields, ← named] using equal (.inl operator)
    obtain ⟨flag, converted⟩ := toBool_of_convertible convertible
    refine boolean_field (.online flag) ?_ ?_ rfl
    · rcases known with operator | operator <;> simp [operator, ← named]
    · simp [parseFilterProperty, ← named, converted, Except.map]
  · rw [Executed]
    cases value : property.value <;> simp [parseFilterProperty, ← named, columnName,
      fromCustomFieldsFilter, operator, value, Fitting, Value.isString, Listing.Accepts, Listing.tableAlias]
  · exact text_field "platform" valid known named (by decide) (by decide) rfl (by decide) rfl
  · exact text_field "mac" valid known named (by decide) (by decide) rfl (by decide) rfl

/-- A validated property is executed if and only if its value fits. -/
theorem executed_iff {listing : Listing} {property : Property}
    (valid : validProperty listing.constraints property) :
    Executed isNumber listing (listing.renamed property) ↔ Fitting property := by
  obtain ⟨allowed, boolean, -⟩ := of_validProperty valid
  cases listing with
  | devices => exact (device_executed valid).1
  | sessions =>
    have same : Listing.sessions.renamed property = property := by simp [Listing.renamed]
    rw [same]
    simp only [Listing.constraints, sessionFilterFields, List.mem_cons, List.not_mem_nil, or_false,
      exists_eq_or_imp, exists_eq_left] at allowed
    rcases allowed with ⟨named, known⟩ | ⟨named, operator⟩ | ⟨named, operator⟩
    · exact (text_field "device_id" valid (.inr known) named (by decide) (by decide) rfl (by decide) rfl).1
    · obtain ⟨flag, converted⟩ := toBool_of_convertible (boolean operator)
      refine (boolean_field (.compare .eq ⟨"session", "closed"⟩ (.bool flag)) (by simp [operator, ← named])
        ?_ ⟨.boolean, rfl, rfl, flag, rfl⟩).1
      simp [parseFilterProperty, ← named, operator, columnName, converted, Except.map, Listing.tableAlias]
    · obtain ⟨flag, converted⟩ := toBool_of_convertible (boolean operator)
      refine (boolean_field (.active true flag) (by simp [operator, ← named]) ?_ ⟨rfl, rfl⟩).1
      simp [parseFilterProperty, ← named, converted, Except.map, Listing.tableAlias]
  | publicKeys =>
    simp only [Listing.constraints, publicKeyFilterFields, List.mem_cons, List.not_mem_nil, or_false,
      exists_eq_or_imp, exists_eq_left] at allowed
    rcases allowed with ⟨named, known⟩ | ⟨named, known⟩
    · exact (text_field "name" valid known named (by decide) (by decide) rfl (by decide) rfl).1
    · exact (text_field "fingerprint" valid known named (by decide) (by decide) rfl (by decide) rfl).1
  | namespaces =>
    simp only [Listing.constraints, namespaceFilterFields, List.mem_cons, List.not_mem_nil, or_false,
      exists_eq_or_imp, exists_eq_left] at allowed
    rcases allowed with ⟨named, known⟩ | ⟨named, known⟩
    · have same : Listing.namespaces.renamed property = property := by
        simp [Listing.renamed, ← named]
      rw [same]
      exact (text_field "name" valid known named (by decide) (by decide) rfl (by decide) rfl).1
    · have renamed : Listing.namespaces.renamed property = { property with name := "scope" } := by
        simp [Listing.renamed, ← named]
      have executed : Executed isNumber .namespaces { property with name := "scope" } ↔ _ :=
        enum_column_iff (by simp) (show _ = "scope" from rfl) (by decide) rfl rfl known
      rw [renamed, executed]
      rcases known with operator | operator <;> simp [Fitting, ← named, operator]

end Properties

/-! ## Whole lists -/

section Lists

variable (isNumber : String → Bool)

/-- The properties of a list. -/
def properties (filters : List Filter) : List Property :=
  filters.filterMap fun
    | .property property => some property
    | .operator _ => none

/-- The condition of a property, if it has one. -/
def conditionOf (tableAlias : String) (property : Property) : Option Condition :=
  match parseFilterProperty isNumber property tableAlias with
  | .ok condition => condition
  | .error _ => none

theorem conditionOf_eq_some {tableAlias : String} {property : Property} {condition : Condition} :
    conditionOf isNumber tableAlias property = some condition ↔
      parseFilterProperty isNumber property tableAlias = .ok (some condition) := by
  unfold conditionOf
  cases parseFilterProperty isNumber property tableAlias <;> simp

/-- The loop adds the conditions of the properties that have one, in order. -/
theorem foldl_conditions (tableAlias : String) (filters : List Filter) (translation : Translation) :
    (filters.foldl (Translation.next isNumber tableAlias) translation).chain.map Prod.snd =
      translation.chain.map Prod.snd ++ (properties filters).filterMap (conditionOf isNumber tableAlias) := by
  induction filters generalizing translation with
  | nil => simp [properties]
  | cons filter rest ih =>
    rw [List.foldl_cons, ih]
    cases filter with
    | operator name =>
      have same : (Translation.next isNumber tableAlias translation (.operator name)).chain =
          translation.chain := by
        dsimp only [Translation.next]
        split <;> rfl
      rw [same]
      rfl
    | property property =>
      have shown : properties (.property property :: rest) = property :: properties rest := rfl
      rw [shown, List.filterMap_cons, Translation.next, conditionOf]
      cases parseFilterProperty isNumber property tableAlias with
      | error error => rfl
      | ok condition => cases condition <;> simp

theorem of_matchFilters {tableAlias : String} {filters : List Filter} {chain : Chain}
    (served : matchFilters isNumber tableAlias filters = .ok chain) :
    (translation isNumber tableAlias filters).filterErr = none ∧
      (translation isNumber tableAlias filters).chain = chain := by
  unfold matchFilters at served
  split at served <;> cases served
  exact ⟨‹_›, rfl⟩

/-- A list is translated with an accepted condition for each of its properties if and only if each of
them alone is. -/
theorem matchFilters_iff {tableAlias : String} {accepts : Condition → Prop} (filters : List Filter) :
    (∃ chain, matchFilters isNumber tableAlias filters = .ok chain ∧
      chain.length = (properties filters).length ∧ ∀ link ∈ chain, accepts link.2) ↔
    ∀ property ∈ properties filters, ∃ condition,
      parseFilterProperty isNumber property tableAlias = .ok (some condition) ∧ accepts condition := by
  have conditions := foldl_conditions isNumber tableAlias filters .start
  rw [← translation, show Translation.start.chain.map Prod.snd = [] from rfl, List.nil_append] at conditions
  have lengths := congrArg List.length conditions
  rw [List.length_map] at lengths
  constructor
  · rintro ⟨chain, served, length, accepted⟩ property member
    obtain ⟨-, rfl⟩ := of_matchFilters isNumber served
    -- as many conditions as properties, so each property has one
    rw [lengths, List.filterMap_length_eq_length] at length
    obtain ⟨condition, found⟩ := Option.isSome_iff_exists.mp (length property member)
    refine ⟨condition, (conditionOf_eq_some isNumber).mp found, ?_⟩
    have made := List.mem_filterMap.mpr ⟨property, member, found⟩
    rw [← conditions] at made
    obtain ⟨link, stored, rfl⟩ := List.mem_map.mp made
    exact accepted link stored
  · intro each
    have conditioned : ∀ property ∈ properties filters, (conditionOf isNumber tableAlias property).isSome := by
      intro property member
      obtain ⟨condition, parsed, -⟩ := each property member
      rw [(conditionOf_eq_some isNumber).mpr parsed]
      rfl
    have clean : (translation isNumber tableAlias filters).filterErr = none := by
      rw [← Option.not_isSome_iff_eq_none, translation, foldl_filterErr]
      rintro (⟨before, property, error, after, rfl, fails, -⟩ | ⟨impossible, -⟩)
      · obtain ⟨condition, parsed, -⟩ := each property (List.mem_filterMap.mpr ⟨.property property, by simp, rfl⟩)
        cases parsed.symm.trans fails
      · cases impossible
    refine ⟨_, by rw [matchFilters, clean], ?_, fun link member => ?_⟩
    · rw [lengths, List.filterMap_length_eq_length]
      exact conditioned
    · have made := List.mem_map_of_mem (f := Prod.snd) member
      rw [conditions] at made
      obtain ⟨property, known, found⟩ := List.mem_filterMap.mp made
      obtain ⟨condition, parsed, accepted⟩ := each property known
      cases found.symm.trans ((conditionOf_eq_some isNumber).mpr parsed)
      exact accepted

/-- Where every property yields a condition or an error, `Match` succeeds only if all yield conditions. -/
theorem matchFilters_length {tableAlias : String} {filters : List Filter} {chain : Chain}
    (answered : Answered isNumber tableAlias filters)
    (served : matchFilters isNumber tableAlias filters = .ok chain) :
    chain.length = (properties filters).length := by
  obtain ⟨clean, rfl⟩ := of_matchFilters isNumber served
  have lengths := congrArg List.length (foldl_conditions isNumber tableAlias filters .start)
  rw [← translation, List.length_map, show Translation.start.chain.map Prod.snd = [] from rfl,
    List.nil_append] at lengths
  rw [lengths, List.filterMap_length_eq_length]
  intro property member
  obtain ⟨filter, stored, shown⟩ := List.mem_filterMap.mp member
  obtain rfl : filter = .property property := by
    cases filter <;> cases shown
    rfl
  cases parsed : parseFilterProperty isNumber property tableAlias with
  | ok condition =>
    cases condition with
    | none => exact absurd parsed (answered property stored)
    | some condition => rw [(conditionOf_eq_some isNumber).mpr parsed]; rfl
  | error error =>
    obtain ⟨before, after, rfl⟩ := List.append_of_mem stored
    rw [← Option.not_isSome_iff_eq_none, translation, foldl_filterErr] at clean
    exact absurd (.inl ⟨before, property, error, after, rfl, parsed,
      fun later member => answered later (by simp [member])⟩) clean

theorem properties_prepared (listing : Listing) (filters : List Filter) :
    properties (listing.prepared filters) = (properties filters).map listing.renamed := by
  induction filters with
  | nil => rfl
  | cons filter rest ih =>
    cases filter with
    | operator name => exact ih
    | property property => exact congrArg (listing.renamed property :: ·) ih

theorem valid_of_validateFilters {constraints : FieldConstraints} {filters : List Filter}
    (valid : validateFilters filters constraints) {property : Property}
    (member : property ∈ properties filters) : validProperty constraints property := by
  obtain ⟨filter, found, same⟩ := List.mem_filterMap.mp member
  have checked := List.all_eq_true.mp (Bool.and_eq_true_iff.mp valid).2 filter found
  cases filter with
  | operator name => cases same
  | property other =>
    cases same
    exact checked

/-- A validated list is translated without an error, with one condition for each property that
PostgreSQL accepts, if and only if the values of its properties fit. The fields and operators that
validation lets through are gone through one by one, each with the values its column takes. -/
theorem validated_filters_executed (listing : Listing) (filters : List Filter)
    (valid : validateFilters filters listing.constraints) :
    (∃ chain, matchFilters isNumber listing.tableAlias (listing.prepared filters) = .ok chain ∧
      chain.length = (properties filters).length ∧ ∀ link ∈ chain, listing.Accepts link.2) ↔
    ∀ property ∈ properties filters, Fitting property := by
  have length : (properties filters).length = (properties (listing.prepared filters)).length := by
    rw [properties_prepared, List.length_map]
  rw [length, matchFilters_iff, properties_prepared, List.forall_mem_map]
  exact forall₂_congr fun property member => executed_iff (valid_of_validateFilters valid member)

end Lists

/-- Tags and a status, joined by a word. -/
def tagsAndStatus : List Filter :=
  [.property ⟨"tags.name", "contains", .array [.string "lab", .string "eu"]⟩, .operator "and",
    .property ⟨"status", "ne", .string "rejected"⟩]

theorem validated_filters_executed_tags :
    validateFilters tagsAndStatus Listing.devices.constraints ∧
    ∃ chain, matchFilters (fun _ => false) "device" (Listing.devices.prepared tagsAndStatus) =
      .ok chain ∧ chain.length = 2 ∧ ∀ link ∈ chain, Listing.devices.Accepts link.2 := by
  refine ⟨by decide +kernel, (validated_filters_executed _ .devices tagsAndStatus (by decide +kernel)).mpr
    fun property member => ?_⟩
  rcases List.mem_pair.mp member with rfl | rfl
  · exact ⟨fun _ => .inr ⟨rfl, _, rfl, rfl⟩, by simp, by simp⟩
  · exact ⟨by simp, fun _ => ⟨"rejected", by simp, rfl⟩, by simp⟩

/-- Validated lists that are not executed: a number for `contains` is refused by `Match`; an array
for `contains` on a text column, and a text that is no label, are refused by PostgreSQL. -/
theorem validated_filters_refused :
    (validateFilters [.property ⟨"name", "contains", .number 5⟩] Listing.devices.constraints ∧
      matchFilters (fun _ => false) "device" [.property ⟨"name", "contains", .number 5⟩] =
        .error .unsupportedContainsType) ∧
    (validateFilters [.property ⟨"name", "contains", .array []⟩] Listing.devices.constraints ∧
      matchFilters (fun _ => false) "device" [.property ⟨"name", "contains", .array []⟩] =
        .ok [(.and, .arrayContains ⟨"device", "name"⟩ [])] ∧
      ¬ Listing.devices.Accepts (.arrayContains ⟨"device", "name"⟩ [])) ∧
    validateFilters [.property ⟨"status", "eq", .string "gone"⟩] Listing.devices.constraints ∧
      matchFilters (fun _ => false) "device" [.property ⟨"status", "eq", .string "gone"⟩] =
        .ok [(.and, .compare .eq ⟨"device", "status"⟩ (.string "gone"))] ∧
      ¬ Listing.devices.Accepts (.compare .eq ⟨"device", "status"⟩ (.string "gone")) := by
  refine ⟨⟨by decide +kernel, rfl⟩, ⟨by decide +kernel, rfl, id⟩, by decide +kernel, rfl, ?_⟩
  rintro ⟨type, typed, comparable⟩
  obtain rfl : deviceStatus = type := Option.some.inj typed
  simp [Listing.comparable, deviceStatus] at comparable

end ShellHub.ListedFilters
