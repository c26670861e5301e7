import Mathlib.Data.Finset.Card
import Mathlib.Data.List.Dedup
import Mathlib.Data.List.Infix
import ShellHub.ListedFilters

/-!
# What filters select

A chain of conditions selects rows as SQL evaluates it: AND binds tighter than OR, and there are no
parentheses inside the group. `GetDeviceList` restricts the platform by one more property at the end
of the client's list. A device with the other platform is listed exactly if it meets a beginning of
the client's filter that an OR follows.

`contains` is translated to an ILIKE pattern, in which the percent sign, the underscore and the
backslash have a meaning of their own, and for tags to a count of distinct names. The rows that match
are those that contain the text, exactly for the texts with none of the three; and the devices that
match a list of names are those that carry them all, exactly for the lists that name none twice.

How characters are compared without regard to case is left open. A query with a condition that
PostgreSQL does not define is refused. A condition on an absent value is not true.
-/

namespace ShellHub.FilteredRows

open Filters ListedFilters

/-! ## Patterns -/

section Patterns

-- the character that stands for all cases of a letter
variable (fold : Char → Char)

/-- `text ILIKE pattern`: `%` stands for any characters, `_` for one, and a backslash takes the
character after it literally. -/
def ilike : List Char → List Char → Bool
  | [], text => text.isEmpty
  | '%' :: pattern, text => text.tails.any fun rest => ilike pattern rest
  | '_' :: pattern, text =>
    match text with
    | [] => false
    | _ :: rest => ilike pattern rest
  | '\\' :: char :: pattern, text =>
    match text with
    | [] => false
    | first :: rest => fold char = fold first && ilike pattern rest
  | char :: pattern, text =>
    match text with
    | [] => false
    | first :: rest => fold char = fold first && ilike pattern rest

/-- The characters without a meaning of their own. -/
def Literal (text : List Char) : Prop := ∀ char ∈ text, char ∉ ['%', '_', '\\']

instance (text : List Char) : Decidable (Literal text) := List.decidableBAll _ text

variable {fold}

/-- A character without a meaning of its own stands for itself. -/
theorem ilike_char {char : Char} (literal : char ∉ ['%', '_', '\\']) (pattern text : List Char) :
    ilike fold (char :: pattern) text =
      match text with
      | [] => false
      | first :: rest => fold char = fold first && ilike fold pattern rest := by
  simp only [List.mem_cons, List.not_mem_nil, or_false, not_or] at literal
  obtain ⟨percent, underscore, backslash⟩ := literal
  rw [ilike.eq_def]
  split
  · contradiction
  · exact absurd (List.cons.inj ‹_›).1 percent
  · exact absurd (List.cons.inj ‹_›).1 underscore
  · exact absurd (List.cons.inj ‹_›).1 backslash
  · obtain ⟨rfl, rfl⟩ := List.cons.inj ‹_›
    rfl

/-- A text without special characters, and then anything. -/
theorem ilike_front {value : List Char} (literal : Literal value) (text : List Char) :
    ilike fold (value ++ ['%']) text ↔ value.map fold <+: text.map fold := by
  induction value generalizing text with
  | nil =>
    refine iff_of_true ?_ List.nil_prefix
    exact List.any_eq_true.mpr ⟨[], (List.mem_tails _ _).mpr List.nil_suffix, rfl⟩
  | cons char further ih =>
    obtain ⟨plain, rest⟩ := List.forall_mem_cons.mp literal
    rw [List.cons_append, ilike_char plain]
    cases text with
    | nil => simp
    | cons first text =>
      rw [Bool.and_eq_true, decide_eq_true_eq, ih rest, List.map_cons,
        List.map_cons, List.cons_prefix_cons]

/-- A text contains another, without regard to case. -/
def Contains (fold : Char → Char) (text value : String) : Prop :=
  value.toList.map fold <:+: text.toList.map fold

/-- The pattern of `contains` is the value between two percent signs. -/
theorem containing_toList (value : String) :
    (containing value).toList = '%' :: (value.toList ++ ['%']) := by
  simp [containing]

/-- The pattern of `contains` for a text without special characters. -/
theorem ilike_containing {value : String} (literal : Literal value.toList) (text : String) :
    ilike fold (containing value).toList text.toList ↔ Contains fold text value := by
  rw [containing_toList, ilike, List.any_eq_true]
  constructor
  · rintro ⟨rest, tail, front⟩
    have suffix := ((List.mem_tails _ _).mp tail).map fold
    exact ((ilike_front literal rest).mp front).isInfix.trans suffix.isInfix
  · rintro ⟨before, after, split⟩
    rw [List.append_assoc] at split
    obtain ⟨front, rest, whole, -, same⟩ := List.map_eq_append_iff.mp split.symm
    exact ⟨rest, (List.mem_tails _ _).mpr ⟨front, whole.symm⟩,
      (ilike_front literal rest).mpr ⟨after, same.symm⟩⟩

/-- A shortest text that starts as the pattern says. At its end a backslash escapes the percent sign that
`contains` puts there. -/
def shortest : List Char → List Char
  | [] => []
  | '%' :: value => shortest value
  | '_' :: value => 'a' :: shortest value
  | ['\\'] => ['%']
  | '\\' :: char :: value => char :: shortest value
  | char :: value => char :: shortest value

/-- What is left after the special cases has no meaning of its own. -/
theorem literal_of_rest {char : Char} {value : List Char} (percent : char ≠ '%') (underscore : char ≠ '_')
    (last : char = '\\' → value = [] → False)
    (pair : ∀ next rest, char = '\\' → value = next :: rest → False) : char ∉ ['%', '_', '\\'] := by
  have backslash : char ≠ '\\' := by
    cases value with
    | nil => exact fun same => last same rfl
    | cons next rest => exact fun same => pair next rest same rfl
  simp [percent, underscore, backslash]

/-- The shortest text is matched, whatever the pattern. -/
theorem ilike_shortest (value : List Char) : ilike fold (value ++ ['%']) (shortest value) := by
  fun_induction shortest value with
  | case1 => exact List.any_eq_true.mpr ⟨[], by simp, rfl⟩
  | case2 value ih =>
    exact List.any_eq_true.mpr ⟨shortest value, (List.mem_tails _ _).mpr List.suffix_rfl, ih⟩
  | case3 value ih => exact ih
  | case4 => simp [ilike]
  | case5 char value ih => simpa [ilike] using ih
  | case6 char value percent underscore last pair ih =>
    rw [List.cons_append, ilike_char (literal_of_rest percent underscore last pair)]
    simpa using ih

theorem length_shortest (value : List Char) : (shortest value).length ≤ value.length := by
  fun_induction shortest value <;> simp only [List.length_cons, List.length_nil] at * <;> omega

/-- Only a text without special characters is such a text itself, as far as the comparison tells `%`
from a backslash and `_` from a letter: the other characters make the shortest text shorter. -/
theorem literal_of_shortest (percent : fold '%' ≠ fold '\\') (letter : fold 'a' ≠ fold '_')
    {value : List Char} (same : value.map fold = (shortest value).map fold) : Literal value := by
  have lengths := congrArg List.length same
  simp only [List.length_map] at lengths
  fun_induction shortest value with
  | case1 => exact fun char member => absurd member List.not_mem_nil
  | case2 value | case5 char value =>
    have shorter := length_shortest value
    simp only [List.length_cons] at lengths
    omega
  | case3 value => exact absurd (List.cons.inj same).1.symm letter
  | case4 => exact absurd (List.cons.inj same).1.symm percent
  | case6 char value isPercent isUnderscore last pair ih =>
    exact List.forall_mem_cons.mpr ⟨literal_of_rest isPercent isUnderscore last pair,
      ih (List.cons.inj same).2 (Nat.succ.inj lengths)⟩

/-- The pattern of `contains` means containing exactly for the texts without special characters. -/
theorem ilike_containing_iff (percent : fold '%' ≠ fold '\\') (letter : fold 'a' ≠ fold '_')
    (value : String) :
    (∀ text : String, ilike fold (containing value).toList text.toList ↔ Contains fold text value) ↔
      Literal value.toList := by
  refine ⟨fun means => ?_, ilike_containing⟩
  have matched : ilike fold (value.toList ++ ['%']) (shortest value.toList) := ilike_shortest _
  have contained := (means (String.ofList (shortest value.toList))).mp (by
    rw [containing_toList, ilike, String.toList_ofList]
    exact List.any_eq_true.mpr ⟨_, (List.mem_tails _ _).mpr List.suffix_rfl, matched⟩)
  rw [Contains, String.toList_ofList] at contained
  refine literal_of_shortest percent letter (contained.eq_of_length_le ?_)
  simpa using length_shortest value.toList

end Patterns

/-! ## Rows -/

/-- A row of a list, with what the conditions refer to. -/
structure Row where
  text : Column → Option String
  flag : Column → Option Bool
  tags : List String
  customFields : List String
  online : Bool
  active : Bool

/-- The condition is true of a row. -/
def Row.meets (fold : Char → Char) (row : Row) : Condition → Bool
  | .online isOnline => row.online = isOnline
  | .active _ isActive => row.active = isActive
  | .ilike column pattern =>
    (row.text column).any fun text => ilike fold pattern.toList text.toList
  | .arrayContains _ _ => false
  | .compare .eq column (.string value) => row.text column = some value
  | .compare .ne column (.string value) => (row.text column).any fun text => text ≠ value
  | .compare .eq column (.bool value) => row.flag column = some value
  | .compare _ _ _ => false
  | .tagIlike pattern => row.tags.any fun name => ilike fold pattern.toList name.toList
  | .tagsCount names => (row.tags.filter (· ∈ names)).dedup.length = names.length
  | .tagEq (.string value) => value ∈ row.tags
  | .tagEq _ => false
  | .customFields pattern =>
    row.customFields.any fun value => ilike fold pattern.toList value.toList

/-- A row with a name, two tags and a custom field. -/
def sampleRow : Row where
  text column := if column = ⟨"device", "name"⟩ then some "Rack-7" else none
  flag _ := none
  tags := ["lab", "eu"]
  customFields := ["Building A"]
  online := true
  active := false

/-- Where the evaluation of a chain is: whether an alternative before the last OR holds, and whether all
conditions after it do. -/
structure Alternatives where
  earlier : Bool
  latest : Bool

def Alternatives.next (meets : Condition → Bool) (alternatives : Alternatives) :
    Connective × Condition → Alternatives
  | (.and, condition) => { alternatives with latest := alternatives.latest && meets condition }
  | (.or, condition) => ⟨alternatives.earlier || alternatives.latest, meets condition⟩

def alternatives (meets : Condition → Bool) : Chain → Alternatives
  | [] => ⟨false, true⟩
  | (_, condition) :: rest => rest.foldl (Alternatives.next meets) ⟨false, meets condition⟩

/-- A chain without parentheses, in which AND binds tighter than OR. An empty group is left out of
the query. -/
def holds (meets : Condition → Bool) (chain : Chain) : Bool :=
  (alternatives meets chain).earlier || (alternatives meets chain).latest

/-- A device matches a list of names without duplicates exactly if it carries them all: the distinct
names that count are among those of the list, and as many only if they are all of them. -/
theorem meets_tagsCount {fold : Char → Char} {names : List String} (distinct : names.Nodup)
    (row : Row) : row.meets fold (.tagsCount names) ↔ ∀ name ∈ names, name ∈ row.tags := by
  have counted : (row.tags.filter (· ∈ names)).dedup.length =
      (row.tags.toFinset ∩ names.toFinset).card := by
    rw [← List.toFinset_card_of_nodup (List.nodup_dedup _)]
    congr 1
    ext name
    simp
  have whole : names.toFinset.card = names.length := List.toFinset_card_of_nodup distinct
  simp only [Row.meets, decide_eq_true_eq, counted, ← whole]
  constructor
  · intro same name member
    have all := Finset.eq_of_subset_of_card_le Finset.inter_subset_right same.ge
    have present : name ∈ row.tags.toFinset ∩ names.toFinset := by
      rw [all]
      exact List.mem_toFinset.mpr member
    exact List.mem_toFinset.mp (Finset.mem_inter.mp present).1
  · intro carried
    congr 1
    refine Finset.inter_eq_right.mpr fun name member => ?_
    exact List.mem_toFinset.mpr (carried name (List.mem_toFinset.mp member))

/-- A device with the names of a list does not match it, if one of them is there twice. -/
theorem meets_tagsCount_iff {fold : Char → Char} {names : List String} :
    (∀ row : Row, row.meets fold (.tagsCount names) ↔ ∀ name ∈ names, name ∈ row.tags) ↔ names.Nodup := by
  refine ⟨fun means => ?_, meets_tagsCount⟩
  have counted := (means { sampleRow with tags := names }).mpr fun name member => member
  simp only [Row.meets, decide_eq_true_eq] at counted
  rw [List.filter_eq_self.mpr (by simp)] at counted
  rw [← (List.dedup_sublist names).eq_of_length counted]
  exact List.nodup_dedup names

/-- No property but the two has the column of tags or of custom fields. -/
theorem columnName_ordinary {tableAlias name : String}
    (plain : name ∉ ["tags.name", "custom_fields"]) :
    columnName tableAlias name ∉ ["tags.name", "custom_fields"] := by
  unfold columnName
  dsimp only
  split
  · decide
  split
  · decide
  split
  · decide
  · exact plain

/-- `contains` selects the rows with a text, a tag or a custom field that contains the value if and only
if the value has no special characters; and with a list of names it selects the devices with all tags if
and only if no name is there twice. For any other value the shortest text that the pattern matches is a
row for which the two differ, and for any other list the device with just these tags. -/
theorem contains_selects (fold : Char → Char) (percent : fold '%' ≠ fold '\\')
    (letter : fold 'a' ≠ fold '_') (isNumber : String → Bool) (value : String) (names : List String) :
    (∀ name tableAlias, name ∉ ["online", "active", "tags.name", "custom_fields"] →
      ∃ condition, parseFilterProperty isNumber ⟨name, "contains", .string value⟩ tableAlias =
        .ok (some condition) ∧ ((∀ row : Row, row.meets fold condition ↔
          ∃ text, row.text ⟨tableAlias, columnName tableAlias name⟩ = some text ∧
            Contains fold text value) ↔ Literal value.toList)) ∧
    (∃ condition, parseFilterProperty isNumber ⟨"tags.name", "contains", .string value⟩ "device" =
      .ok (some condition) ∧ ((∀ row : Row, row.meets fold condition ↔
        ∃ name ∈ row.tags, Contains fold name value) ↔ Literal value.toList)) ∧
    (∃ condition, parseFilterProperty isNumber ⟨"custom_fields", "contains", .string value⟩ "device" =
      .ok (some condition) ∧ ((∀ row : Row, row.meets fold condition ↔
        ∃ field ∈ row.customFields, Contains fold field value) ↔ Literal value.toList)) ∧
    ∃ condition, parseFilterProperty isNumber
      ⟨"tags.name", "contains", .array (names.map .string)⟩ "device" = .ok (some condition) ∧
        ((∀ row : Row, row.meets fold condition ↔ ∀ name ∈ names, name ∈ row.tags) ↔ names.Nodup) := by
  have exactly := ilike_containing_iff percent letter value
  refine ⟨fun name tableAlias plain => ?_, ?_, ?_, ?_⟩
  · simp only [List.mem_cons, List.not_mem_nil, or_false, not_or] at plain
    have ordinary := @columnName_ordinary tableAlias name (by simp [plain])
    simp only [List.mem_cons, List.not_mem_nil, or_false, not_or] at ordinary
    refine ⟨.ilike ⟨tableAlias, columnName tableAlias name⟩ (containing value), ?_, ?_, fun literal row => ?_⟩
    · simp [parseFilterProperty, plain, ordinary, fromContains, Except.map]
    · refine fun means => exactly.mp fun text => ?_
      simpa [Row.meets] using means { sampleRow with text := fun _ => some text }
    · simp only [Row.meets, Option.any_eq_true, exactly.mpr literal]
  · refine ⟨.tagIlike (containing value), rfl, fun means => exactly.mp fun text => ?_, fun literal row => ?_⟩
    · simpa [Row.meets] using means { sampleRow with tags := [text] }
    · simp only [Row.meets, List.any_eq_true, exactly.mpr literal]
  · refine ⟨.customFields (containing value), rfl, fun means => exactly.mp fun text => ?_,
      fun literal row => ?_⟩
    · simpa [Row.meets] using means { sampleRow with customFields := [text] }
    · simp only [Row.meets, List.any_eq_true, exactly.mpr literal]
  · have found : texts (names.map .string) = some names := by
      induction names with
      | nil => rfl
      | cons name further ih => simp [texts, ih]
    refine ⟨.tagsCount names, ?_, meets_tagsCount_iff⟩
    simp [parseFilterProperty, columnName, fromTagsFilter, found]

theorem contains_selects_rack :
    Literal "rack".toList ∧
    ∃ condition, parseFilterProperty (fun _ => false) ⟨"tags.name", "contains", .string "rack"⟩ "device" =
      .ok (some condition) ∧ ((∀ row : Row, row.meets Char.toLower condition ↔
        ∃ name ∈ row.tags, Contains Char.toLower name "rack") ↔ Literal "rack".toList) :=
  ⟨by decide, (contains_selects Char.toLower (by decide) (by decide) _ "rack" []).2.1⟩

/-- A percent sign matches a name without one, and a device does not match the list that names its
tag twice. -/
theorem contains_misses :
    (parseFilterProperty (fun _ => false) ⟨"name", "contains", .string "r%7"⟩ "device" =
        .ok (some (.ilike ⟨"device", "name"⟩ (containing "r%7"))) ∧
      sampleRow.meets Char.toLower (.ilike ⟨"device", "name"⟩ (containing "r%7")) ∧
      ¬ Contains Char.toLower "Rack-7" "r%7") ∧
    (parseFilterProperty (fun _ => false)
        ⟨"tags.name", "contains", .array [.string "lab", .string "lab"]⟩ "device" =
        .ok (some (.tagsCount ["lab", "lab"])) ∧
      ¬ sampleRow.meets Char.toLower (.tagsCount ["lab", "lab"]) ∧
      ∀ name ∈ ["lab", "lab"], name ∈ sampleRow.tags) := by
  refine ⟨⟨rfl, by decide +kernel, ?_⟩, rfl, by decide +kernel, by decide +kernel⟩
  rintro ⟨before, after, split⟩
  have member : '%' ∈ "Rack-7".toList.map Char.toLower := by
    rw [← split]
    simp
  revert member
  decide +kernel

/-! ## The restriction of the device list -/

section Restriction

variable (isNumber : String → Bool)

/-- What `GetDeviceList` appends to the client's filters. -/
def restriction (connector : Bool) : List Filter :=
  [.operator "and", .property ⟨"platform", if connector then "eq" else "ne", .string "connector"⟩]

/-- A device list with these filters has the row: `Match` succeeds, PostgreSQL accepts the conditions
and the chain holds. -/
def Selected (fold : Char → Char) (filters : List Filter) (row : Row) : Prop :=
  ∃ chain, matchFilters isNumber "device" filters = .ok chain ∧
    (∀ link ∈ chain, Listing.devices.Accepts link.2) ∧ holds (row.meets fold) chain

/-- The platform of a row is that of connectors, or another. -/
def Restricted (connector : Bool) (row : Row) : Prop :=
  if connector then row.text ⟨"device", "platform"⟩ = some "connector"
  else ∃ platform, row.text ⟨"device", "platform"⟩ = some platform ∧ platform ≠ "connector"

/-- The word in effect after filters. -/
def word (filters : List Filter) : Connective :=
  filters.foldl (fun current => fun
    | .operator name => (parseFilterOperator name).getD current
    | .property _ => current) .or

/-- The row meets a beginning of the client's filter that an OR follows, and all values of the filter
fit, so that it is executed. -/
def Escapes (fold : Char → Char) (client : List Filter) (row : Row) : Prop :=
  (∀ property ∈ properties client, Fitting property) ∧
    ∃ front property back, client = front ++ .property property :: back ∧ properties front ≠ [] ∧
      word front = .or ∧ Selected isNumber fold front row

variable {isNumber}

/-- The last condition of a chain is evaluated last. -/
theorem alternatives_concat {meets : Condition → Bool} {chain : Chain} (started : chain ≠ [])
    (link : Connective × Condition) :
    alternatives meets (chain ++ [link]) = (alternatives meets chain).next meets link := by
  cases chain with
  | nil => contradiction
  | cons first rest => simp [alternatives]

theorem properties_append (front back : List Filter) :
    properties (front ++ back) = properties front ++ properties back :=
  List.filterMap_append

/-- The last filter of a list is translated last. -/
theorem translation_concat (filters : List Filter) (filter : Filter) :
    translation isNumber "device" (filters ++ [filter]) =
      (translation isNumber "device" filters).next isNumber "device" filter := by
  simp [translation]

/-- The word that joins the next condition is the last one the list has named. -/
theorem translation_currentOperator (filters : List Filter) :
    (translation isNumber "device" filters).currentOperator = word filters := by
  induction filters using List.reverseRecOn with
  | nil => rfl
  | append_singleton front filter ih =>
    rw [translation_concat, word, List.foldl_concat, ← word, ← ih]
    cases filter with
    | operator name =>
      dsimp only [Translation.next]
      cases parseFilterOperator name <;> rfl
    | property property =>
      dsimp only [Translation.next]
      split <;> rfl

section Executing

variable {filters : List Filter} (executed : ∀ property ∈ properties filters, Executed isNumber .devices property)

include executed

/-- Each of the executed properties has become one condition. -/
theorem length_translation :
    (translation isNumber "device" filters).chain.length = (properties filters).length := by
  obtain ⟨chain, served, length, -⟩ := (matchFilters_iff isNumber filters).mpr executed
  rw [← length, ← (of_matchFilters isNumber served).2]
  rfl

/-- A list of executed properties selects by its chain. -/
theorem selected_iff (fold : Char → Char) (row : Row) :
    Selected isNumber fold filters row ↔
      holds (row.meets fold) (translation isNumber "device" filters).chain := by
  obtain ⟨chain, served, -, accepted⟩ := (matchFilters_iff isNumber filters).mpr executed
  constructor
  · rintro ⟨other, served', -, held⟩
    rwa [(of_matchFilters isNumber served').2]
  · exact fun held => ⟨chain, served, accepted, (of_matchFilters isNumber served).2 ▸ held⟩

/-- An alternative before the last OR holds exactly if a beginning of the filter that an OR follows does.
The last filter of the list either adds such a beginning, all that is before it, or it does not. -/
theorem earlier_iff (meets : Condition → Bool) :
    (alternatives meets (translation isNumber "device" filters).chain).earlier ↔
      ∃ front property back, filters = front ++ .property property :: back ∧ properties front ≠ [] ∧
        word front = .or ∧ holds meets (translation isNumber "device" front).chain := by
  induction filters using List.reverseRecOn with
  | nil => simp [translation, Translation.start, alternatives]
  | append_singleton init filter ih =>
    have before : ∀ property ∈ properties init, Executed isNumber .devices property :=
      fun property member => executed property (by simp [properties_append, member])
    have split : (∃ front property back, init ++ [filter] = front ++ .property property :: back ∧
          properties front ≠ [] ∧ word front = .or ∧
            holds meets (translation isNumber "device" front).chain) ↔
        (alternatives meets (translation isNumber "device" init).chain).earlier ∨
          (∃ property, filter = .property property) ∧ properties init ≠ [] ∧ word init = .or ∧
            holds meets (translation isNumber "device" init).chain := by
      rw [ih before]
      constructor
      · rintro ⟨front, property, back, whole, started, joined, held⟩
        rcases List.eq_nil_or_concat back with rfl | ⟨back, last, rfl⟩
        · obtain ⟨rfl, same⟩ := List.append_inj' whole rfl
          exact .inr ⟨⟨property, List.singleton_inj.mp same⟩, started, joined, held⟩
        · rw [List.concat_eq_append, ← List.cons_append, ← List.append_assoc] at whole
          obtain ⟨rfl, -⟩ := List.append_inj' whole rfl
          exact .inl ⟨front, property, back, rfl, started, joined, held⟩
      · rintro (⟨front, property, back, rfl, rest⟩ | ⟨⟨property, rfl⟩, rest⟩)
        · exact ⟨front, property, back ++ [filter], by simp, rest⟩
        · exact ⟨init, property, [], rfl, rest⟩
    rw [split, translation_concat]
    cases filter with
    | operator name =>
      have same : (Translation.next isNumber "device" (translation isNumber "device" init)
          (.operator name)).chain = (translation isNumber "device" init).chain := by
        dsimp only [Translation.next]
        split <;> rfl
      simp [same]
    | property property =>
      obtain ⟨condition, parsed, -⟩ := executed property (by simp [properties])
      have lengths := length_translation before
      rw [show Listing.devices.tableAlias = "device" from rfl] at parsed
      simp only [Translation.next, parsed]
      cases started : properties init with
      | nil =>
        rw [started] at lengths
        rw [List.length_eq_zero_iff.mp lengths]
        simp [alternatives]
      | cons first rest =>
        have started : (translation isNumber "device" init).chain ≠ [] := by
          intro empty
          simp [empty, started] at lengths
        rw [alternatives_concat started]
        simp only [List.isEmpty_iff, started, if_false, translation_currentOperator]
        cases word init <;> simp [Alternatives.next, holds]

end Executing

/-- The condition of the restriction. -/
def platformCondition (connector : Bool) : Condition :=
  .compare (if connector then .eq else .ne) ⟨"device", "platform"⟩ (.string "connector")

/-- The condition of the restriction is true of the rows it is for. -/
theorem meets_platformCondition (fold : Char → Char) (connector : Bool) (row : Row) :
    row.meets fold (platformCondition connector) ↔ Restricted connector row := by
  cases connector <;> simp [Row.meets, Restricted, platformCondition, Option.any_eq_true]

theorem parse_platform (connector : Bool) :
    parseFilterProperty isNumber ⟨"platform", if connector then "eq" else "ne", .string "connector"⟩
      "device" = .ok (some (platformCondition connector)) := by
  cases connector <;> rfl

/-- The restriction is one more condition behind AND. -/
theorem chain_restriction (connector : Bool) (client : List Filter) :
    (translation isNumber "device" (client ++ restriction connector)).chain =
      (translation isNumber "device" client).chain ++ [(.and, platformCondition connector)] := by
  have word : parseFilterOperator "and" = some .and := by decide +kernel
  simp only [translation, restriction, List.foldl_append, List.foldl_cons, List.foldl_nil,
    Translation.next, parse_platform, word, ite_self]

/-- One more condition behind AND belongs to what follows the last OR. -/
theorem holds_concat_and (meets : Condition → Bool) (chain : Chain) (condition : Condition) :
    holds meets (chain ++ [(.and, condition)]) ↔
      (alternatives meets chain).earlier ∨ (alternatives meets chain).latest ∧ meets condition := by
  cases chain with
  | nil => simp [holds, alternatives]
  | cons first rest =>
    rw [holds, alternatives_concat (List.cons_ne_nil first rest), Alternatives.next]
    simp

/-- The properties of a validated list that selects a row are executed. -/
theorem executed_of_selected {fold : Char → Char} {filters : List Filter} {row : Row}
    (valid : ∀ property ∈ properties filters, validProperty deviceFilterFields property)
    (selected : Selected isNumber fold filters row) :
    ∀ property ∈ properties filters, Executed isNumber .devices property := by
  obtain ⟨chain, served, accepted, -⟩ := selected
  have answered : Answered isNumber "device" filters := fun property member =>
    (device_executed (valid property (List.mem_filterMap.mpr ⟨_, member, rfl⟩))).2
  exact (matchFilters_iff isNumber filters).mp
    ⟨chain, served, matchFilters_length isNumber answered served, accepted⟩

/-- A validated filter is conjoined with the restriction for a device if and only if its platform is as
asked for, or it meets no beginning of the filter that an OR follows. The chain is evaluated from the
left: the restriction is added to the conditions after the last OR, and what holds before that OR is
not restricted. -/
theorem platform_restricted (fold : Char → Char) (connector : Bool) (client : List Filter)
    (valid : validateFilters client deviceFilterFields) (row : Row) :
    (Selected isNumber fold (client ++ restriction connector) row ↔
      Selected isNumber fold client row ∧ Restricted connector row) ↔
    Restricted connector row ∨ ¬ Escapes isNumber fold client row := by
  have checked : ∀ property ∈ properties client, validProperty deviceFilterFields property :=
    fun property member => valid_of_validateFilters valid member
  have added : properties (restriction connector) =
      [⟨"platform", if connector then "eq" else "ne", .string "connector"⟩] := rfl
  by_cases fitting : ∀ property ∈ properties client, Fitting property
  · have executed : ∀ property ∈ properties client, Executed isNumber .devices property :=
      fun property member => (device_executed (checked property member)).1.mpr (fitting property member)
    have longer : ∀ property ∈ properties (client ++ restriction connector),
        Executed isNumber .devices property := by
      rw [properties_append, added]
      intro property member
      rcases List.mem_append.mp member with earlier | new
      · exact executed property earlier
      · rw [List.mem_singleton.mp new]
        refine ⟨platformCondition connector, parse_platform connector, .text, rfl, ?_, rfl⟩
        cases connector <;> simp
    have escapes : Escapes isNumber fold client row ↔
        (alternatives (row.meets fold) (translation isNumber "device" client).chain).earlier := by
      rw [earlier_iff executed, Escapes, and_iff_right fitting]
      refine exists_congr fun front => exists_congr fun property => exists_congr fun back =>
        and_congr_right fun whole => and_congr_right fun _ => and_congr_right fun _ => ?_
      exact selected_iff (fun property member => executed property (by
        rw [whole, properties_append]
        exact List.mem_append_left _ member)) fold row
    rw [selected_iff executed, selected_iff longer, chain_restriction, holds_concat_and,
      meets_platformCondition, escapes, holds, Bool.or_eq_true]
    tauto
  · -- the list is refused with and without the restriction
    have refused : ¬ Selected isNumber fold client row := fun selected => fitting fun property member =>
      (device_executed (checked property member)).1.mp (executed_of_selected checked selected property member)
    have longer : ¬ Selected isNumber fold (client ++ restriction connector) row := by
      intro selected
      refine fitting fun property member => (device_executed (checked property member)).1.mp
        (executed_of_selected (fun property member => ?_) selected property
          (by rw [properties_append]; exact List.mem_append_left _ member))
      rw [properties_append, added] at member
      rcases List.mem_append.mp member with earlier | new
      · exact checked property earlier
      · rw [List.mem_singleton.mp new]
        cases connector <;> decide +kernel
    simp [refused, longer, Escapes, fitting]

end Restriction

/-- Two properties joined by a word. -/
def named (word : String) : List Filter :=
  [.property ⟨"name", "eq", .string "a"⟩, .operator word, .property ⟨"name", "contains", .string "a"⟩]

/-- A connector with a name. -/
def connectorRow : Row where
  text column := if column = ⟨"device", "name"⟩ then some "a" else some "connector"
  flag _ := none
  tags := []
  customFields := []
  online := true
  active := false

theorem platform_restricted_and :
    validateFilters (named "and") deviceFilterFields ∧
    (Selected (fun _ => false) Char.toLower (named "and" ++ restriction true) connectorRow ↔
      Selected (fun _ => false) Char.toLower (named "and") connectorRow ∧ Restricted true connectorRow) := by
  refine ⟨by decide +kernel, (platform_restricted Char.toLower true (named "and") (by decide +kernel)
    connectorRow).mpr (.inl rfl)⟩

/-- A client that joins by OR gets a connector from the list without connectors. -/
theorem restriction_escaped :
    validateFilters (named "or") deviceFilterFields ∧
    Selected (fun _ => false) Char.toLower (named "or" ++ restriction false) connectorRow ∧
    ¬ Restricted false connectorRow := by
  refine ⟨by decide +kernel, ⟨[(.and, .compare .eq ⟨"device", "name"⟩ (.string "a")),
    (.or, .ilike ⟨"device", "name"⟩ (containing "a")), (.and, platformCondition false)],
    rfl, fun link member => ?_, by decide +kernel⟩, ?_⟩
  · simp only [List.mem_cons, List.not_mem_nil, or_false] at member
    rcases member with rfl | rfl | rfl
    · exact ⟨.text, rfl, .inl rfl, rfl⟩
    · exact rfl
    · exact ⟨.text, rfl, .inr rfl, rfl⟩
  · rintro ⟨platform, found, other⟩
    exact other (Option.some.inj found).symm

end ShellHub.FilteredRows
