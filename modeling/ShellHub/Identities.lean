import ShellHub.RequestBinding
import ShellHub.Roles

/-!
# Authenticated identities

`Authenticator.Resolve` turns a credential into an identity and `Identity.WriteTo` stamps it
onto the request headers, after removing every identity header the client sent. Handlers and
guards read the identity back from these headers. A header is present exactly when the
identity has the attribute, and which attributes it has depends on the kind of credential:
an API key has a tenant and a role but no user, a device token has a device and a tenant.
-/

namespace ShellHub.RequestBinding

/-- `Header.Get`, empty when the header is absent. -/
def Headers.get (headers : Headers) (name : String) : String :=
  (lookupHeader headers name).getD ""

/-- `Header.Del`. -/
def Headers.del (headers : Headers) (name : String) : Headers :=
  headers.filter fun pair => !sameName name pair.1

/-- `Header.Set`. -/
def Headers.set (headers : Headers) (name value : String) : Headers :=
  headers.del name ++ [(name, value)]

end ShellHub.RequestBinding

namespace ShellHub.Identities

open JsonDecoding RequestBinding Roles

/-- The caller's authenticated identity. An attribute it lacks is empty. -/
structure Identity where
  id : String
  username : String
  tenantID : String
  deviceUID : String
  apiKey : String
  role : Role
  admin : Bool
  deriving DecidableEq, Repr

/-- `identityHeaders`: every header that carries part of an identity. -/
def identityHeaders : List String :=
  ["X-ID", "X-Username", "X-Tenant-ID", "X-Device-UID", "X-API-Key", "X-Role", "X-Admin"]

/-- The value an identity writes to an identity header, empty when it writes none. -/
def Identity.attribute (identity : Identity) (header : String) : String :=
  if header = "X-ID" then identity.id
  else if header = "X-Username" then identity.username
  else if header = "X-Tenant-ID" then identity.tenantID
  else if header = "X-Device-UID" then identity.deviceUID
  else if header = "X-API-Key" then identity.apiKey
  else if header = "X-Role" then identity.role.string
  else if header = "X-Admin" then (if identity.admin then "true" else "")
  else ""

/-- Set one identity header, unless the identity leaves it empty. -/
def Identity.stamp (identity : Identity) (headers : Headers) (header : String) : Headers :=
  if identity.attribute header = "" then headers
  else headers.set header (identity.attribute header)

/-- `Identity.WriteTo`: remove every identity header, then set the non-empty ones. -/
def writeTo (identity : Option Identity) (headers : Headers) : Headers :=
  let cleared := identityHeaders.foldl Headers.del headers
  match identity with
  | none => cleared
  | some identity => identityHeaders.foldl identity.stamp cleared

/-- `Identity.WithoutUserScope`, the shape of an identity on the admin surface. -/
def Identity.withoutUserScope (identity : Identity) : Identity :=
  { identity with id := "", tenantID := "" }

/-- The claims of a verified token. A user's role is not part of the token. -/
inductive Claims where
  | device (uid tenantID : String)
  | user (id username tenantID : String)
  deriving DecidableEq, Repr

/-- The part of an API key the authenticator reads. -/
structure APIKeyGrant where
  tenantID : String
  role : Role
  deriving DecidableEq, Repr

/-- The characters of a lower-case hexadecimal number. -/
def isLowerHex (digit : Char) : Bool :=
  digit.isDigit || ('a' ≤ digit && digit ≤ 'f')

/-- A text has hyphens where the pattern has them and lower-case digits elsewhere. -/
def matchesPattern : List Char → List Char → Bool
  | [], [] => true
  | sample :: pattern, letter :: text =>
    (if sample = '-' then letter == '-' else isLowerHex letter) && matchesPattern pattern text
  | _, _ => false

/-- The `uuid` rule of the validator: groups of 8, 4, 4, 4 and 12 lower-case digits. -/
def isUUID (text : String) : Bool :=
  matchesPattern "xxxxxxxx-xxxx-xxxx-xxxx-xxxxxxxxxxxx".toList text.toList

/-- What the services and the verifier of tokens answer the authenticator; a call that fails answers
nothing. -/
structure Answers where
  authAPIKey : String → Option APIKeyGrant
  claims : String → Option Claims
  resolveNamespaceRole : String → String → Option Role
  getUserAdmin : String → Option Bool

/-- The answers of services over a store. Tenants are identifiers of stored namespaces, a uuid
column, and there is no user with an empty identifier. -/
structure AuthnService extends Answers where
  keyTenant : ∀ key grant, authAPIKey key = some grant → isUUID grant.tenantID
  deviceTenant : ∀ token uid tenantID, claims token = some (.device uid tenantID) →
    isUUID tenantID
  userTenant : ∀ tenantID id role, resolveNamespaceRole tenantID id = some role →
    isUUID tenantID
  userID : getUserAdmin "" = none

/-- Where no API key is known, none has a wrong tenant. -/
theorem no_grant (_ : String) (grant : APIKeyGrant) (found : none = some grant) :
    isUUID grant.tenantID := by
  cases found

/-- The identity of an API key: a tenant and a role, but no user. -/
def Identity.ofAPIKey (key : String) (grant : APIKeyGrant) : Identity :=
  { id := "", username := "", tenantID := grant.tenantID, deviceUID := "", apiKey := key,
    role := grant.role, admin := false }

/-- The identity of a device token: a device and its tenant, without user or role. -/
def Identity.ofDevice (uid tenantID : String) : Identity :=
  { id := "", username := "", tenantID, deviceUID := uid, apiKey := "", role := .invalid,
    admin := false }

/-- The identity of a user token, with or without a tenant. -/
def Identity.ofUser (id username tenantID : String) (role : Role) (admin : Bool) : Identity :=
  { id, username, tenantID, deviceUID := "", apiKey := "", role, admin }

/-- The role of a user's token. In a namespace it is read again at every request, and
without one there is none. -/
def Answers.currentRole (service : Answers) (id tenantID : String) : Option Role :=
  if tenantID = "" then some .invalid else service.resolveNamespaceRole tenantID id

/-- `Authenticator.Resolve`: the API key is tried first, then the bearer token. A key or a
token that cannot be honoured gives no identity. -/
def Answers.resolve (service : Answers) (headers : Headers) : Option Identity :=
  let key := headers.get "X-API-Key"
  let bearer := headers.get "Authorization"
  if key ≠ "" then (service.authAPIKey key).map (Identity.ofAPIKey key)
  else if bearer = "" then none
  else match service.claims bearer with
    | none => none
    | some (.device uid tenantID) => some (Identity.ofDevice uid tenantID)
    | some (.user id username tenantID) =>
      (service.currentRole id tenantID).bind fun role =>
        (service.getUserAdmin id).map (Identity.ofUser id username tenantID role)

/-- `Authenticator.Middleware`: resolve the identity, narrow it on the admin surface, stamp
it, and refuse a protected route without one. -/
def Answers.middleware (service : Answers) (anonymous adminSurface : Bool)
    (request : Request) : Option Request :=
  let resolved := service.resolve request.headers
  let identity := if adminSurface then resolved.map Identity.withoutUserScope else resolved
  if identity.isNone && !anonymous then none
  else some { request with headers := writeTo identity request.headers }

/-- `Context.Param`, the raw value of a path parameter. -/
def param (request : Request) (name : String) : String :=
  ((request.path.find? fun pair => pair.1 == name).map Prod.snd).getD ""

/-- `Context.IsAdmin`. -/
def isAdmin (headers : Headers) : Bool := headers.get "X-Admin" == "true"

/-- `Authorize`: a user without a tenant passes only as an admin. -/
def authorize (request : Request) : Bool :=
  !(request.headers.get "X-ID" != "" && request.headers.get "X-Tenant-ID" == "" &&
    !isAdmin request.headers)

/-- `BlockAPIKey`. -/
def blockAPIKey (request : Request) : Bool := request.headers.get "X-API-Key" == ""

/-- `RequiresPermission`: the role is the one the identity brought along. -/
def requiresPermission (permission : Permission) (request : Request) : Bool :=
  (Role.ofString (request.headers.get "X-Role")).hasPermission permission

/-- `RequiresTenant`: the raw path value must be the caller's tenant, except for a caller of
the admin surface. -/
def requiresTenant (name : String) (request : Request) : Bool :=
  let path := param request name
  let tenant := request.headers.get "X-Tenant-ID"
  (request.headers.get "X-ID" == "" && isAdmin request.headers) ||
    !(path == "" || tenant == "" || tenant != path)

/-! ## What the stamped headers say -/

/-- Header names are compared by an equivalence. -/
theorem sameName_iff {left right : String} :
    sameName left right = true ↔ canonicalHeaderKey left = canonicalHeaderKey right := beq_iff_eq

/-- A header is found under its name in any case. -/
theorem lookupHeader_congr {left right : String} (same : sameName left right = true)
    (headers : Headers) : lookupHeader headers left = lookupHeader headers right := by
  unfold lookupHeader sameName
  rw [sameName_iff.mp same]

/-- A header list is searched from its front. -/
theorem lookupHeader_cons (first value name : String) (rest : Headers) :
    lookupHeader ((first, value) :: rest) name =
      if sameName name first then some value else lookupHeader rest name := by
  cases same : sameName name first <;> simp [lookupHeader, same]

/-- A removed header is absent, and the others are as before. -/
theorem lookupHeader_del (headers : Headers) (removed name : String) :
    lookupHeader (headers.del removed) name =
      if sameName removed name then none else lookupHeader headers name := by
  induction headers with
  | nil => simp [Headers.del, lookupHeader]
  | cons pair rest ih =>
    obtain ⟨first, value⟩ := pair
    unfold Headers.del at ih ⊢
    rw [lookupHeader_cons]
    cases gone : sameName removed first with
    | true =>
      rw [List.filter_cons_of_neg (by simp [gone]), ih]
      by_cases same : sameName removed name = true
      · simp [same]
      · have other : ¬ sameName name first = true := by
          rw [sameName_iff] at *
          exact fun equal => same (gone.trans equal.symm)
        simp [same, other]
    | false =>
      rw [List.filter_cons_of_pos (by simp [gone]), lookupHeader_cons, ih]
      by_cases same : sameName removed name = true
      · have other : ¬ sameName name first = true := by
          rw [Bool.eq_false_iff, Ne, sameName_iff] at gone
          rw [sameName_iff] at *
          exact fun equal => gone (same.trans equal)
        simp [same, other]
      · simp [same]

/-- A header appended to others is found after them. -/
theorem lookupHeader_append (headers : Headers) (last value name : String) :
    lookupHeader (headers ++ [(last, value)]) name =
      (lookupHeader headers name).or (if sameName name last then some value else none) := by
  unfold lookupHeader
  rw [List.find?_append, Option.map_or]
  congr 1
  cases same : sameName name last <;> simp [same]

/-- A header that was set has its value, and the others are as before. -/
theorem lookupHeader_set (headers : Headers) (changed value name : String) :
    lookupHeader (headers.set changed value) name =
      if sameName changed name then some value else lookupHeader headers name := by
  have symmetric : sameName name changed = sameName changed name := by
    rw [Bool.eq_iff_iff, sameName_iff, sameName_iff, eq_comm]
  rw [Headers.set, lookupHeader_append, lookupHeader_del, symmetric]
  cases sameName changed name <;> simp

/-- After clearing some headers, exactly these are absent. -/
theorem lookupHeader_clear (removed : List String) (headers : Headers) (name : String) :
    lookupHeader (removed.foldl Headers.del headers) name =
      if removed.any (sameName · name) then none else lookupHeader headers name := by
  induction removed generalizing headers with
  | nil => simp
  | cons first rest ih =>
    rw [List.foldl_cons, ih, lookupHeader_del, List.any_cons]
    cases rest.any (sameName · name) <;> cases sameName first name <;> simp

/-- Stamping one attribute sets its header when the identity has it. -/
theorem lookupHeader_stamp (identity : Identity) (headers : Headers) (header name : String) :
    lookupHeader (identity.stamp headers header) name =
      if sameName header name ∧ identity.attribute header ≠ "" then
        some (identity.attribute header)
      else lookupHeader headers name := by
  unfold Identity.stamp
  by_cases empty : identity.attribute header = ""
  · simp [empty]
  · cases same : sameName header name <;> simp [empty, lookupHeader_set, same]

/-- Stamping attributes leaves the headers of other names alone. -/
theorem lookupHeader_stamps_other (identity : Identity) (names : List String)
    (headers : Headers) (name : String) (other : canonicalHeaderKey name ∉ names.map canonicalHeaderKey) :
    lookupHeader (names.foldl identity.stamp headers) name = lookupHeader headers name := by
  induction names generalizing headers with
  | nil => rfl
  | cons first rest ih =>
    rw [List.map_cons, List.mem_cons, not_or] at other
    have different : ¬ sameName first name = true := by
      rw [sameName_iff]
      exact fun equal => other.1 equal.symm
    rw [List.foldl_cons, ih _ other.2, lookupHeader_stamp]
    simp [different]

/-- Stamping attributes under distinct names sets the headers the identity has. The
induction is over the names; a later stamp never touches an earlier header. -/
theorem lookupHeader_stamps (identity : Identity) (names : List String)
    (distinct : (names.map canonicalHeaderKey).Nodup) (headers : Headers) (name : String)
    (member : name ∈ names) :
    lookupHeader (names.foldl identity.stamp headers) name =
      if identity.attribute name ≠ "" then some (identity.attribute name)
      else lookupHeader headers name := by
  induction names generalizing headers with
  | nil => cases member
  | cons first rest ih =>
    rw [List.map_cons, List.nodup_cons] at distinct
    rw [List.foldl_cons]
    rcases List.mem_cons.mp member with rfl | later
    · rw [lookupHeader_stamps_other, lookupHeader_stamp]
      · simp [sameName_iff]
      · exact distinct.1
    · have other : ¬ sameName first name = true := by
        rw [sameName_iff]
        intro equal
        exact distinct.1 (equal ▸ List.mem_map_of_mem later)
      rw [ih distinct.2 _ later, lookupHeader_stamp]
      simp [other]

/-- The identity headers carry exactly the identity's non-empty attributes, whatever the
client sent. -/
theorem lookupHeader_writeTo (identity : Identity) (headers : Headers) (name : String)
    (member : name ∈ identityHeaders) :
    lookupHeader (writeTo (some identity) headers) name =
      if identity.attribute name ≠ "" then some (identity.attribute name) else none := by
  have cleared : identityHeaders.any (sameName · name) = true :=
    List.any_eq_true.mpr ⟨name, member, sameName_iff.mpr rfl⟩
  rw [writeTo, lookupHeader_stamps identity identityHeaders (by decide +kernel) _ name member,
    lookupHeader_clear, if_pos cleared]

/-- Reading an identity header back gives the attribute. -/
theorem get_writeTo (identity : Identity) (headers : Headers) (name : String)
    (member : name ∈ identityHeaders) :
    (writeTo (some identity) headers).get name = identity.attribute name := by
  rw [Headers.get, lookupHeader_writeTo identity headers name member]
  by_cases empty : identity.attribute name = "" <;> simp [empty]

/-- The text `"true"` is in the admin header exactly when the identity is an admin. -/
theorem isAdmin_writeTo (identity : Identity) (headers : Headers) :
    isAdmin (writeTo (some identity) headers) = identity.admin := by
  rw [isAdmin, get_writeTo identity headers "X-Admin" (by decide)]
  cases flag : identity.admin <;> simp [Identity.attribute, flag]

/-! ## What a resolved identity is -/

/-- The three kinds of identity the authenticator resolves, one for each credential. -/
theorem resolve_cases {service : AuthnService} {headers : Headers} {identity : Identity}
    (resolved : service.resolve headers = some identity) :
    (∃ key grant, key ≠ "" ∧ service.authAPIKey key = some grant ∧
      identity = Identity.ofAPIKey key grant) ∨
    (∃ token uid tenantID, service.claims token = some (.device uid tenantID) ∧
      identity = Identity.ofDevice uid tenantID) ∨
    ∃ id username tenantID role admin,
      service.currentRole id tenantID = some role ∧ service.getUserAdmin id = some admin ∧
      identity = Identity.ofUser id username tenantID role admin := by
  simp only [Answers.resolve] at resolved
  split at resolved
  · rename_i present
    obtain ⟨grant, found, rfl⟩ := Option.map_eq_some_iff.mp resolved
    exact .inl ⟨_, grant, present, found, rfl⟩
  · split at resolved
    · cases resolved
    · split at resolved
      · cases resolved
      · rename_i uid tenantID found
        cases resolved
        exact .inr (.inl ⟨_, uid, tenantID, found, rfl⟩)
      · rename_i id username tenantID found
        obtain ⟨role, member, rest⟩ := Option.bind_eq_some_iff.mp resolved
        obtain ⟨admin, flag, rfl⟩ := Option.map_eq_some_iff.mp rest
        exact .inr (.inr ⟨id, username, tenantID, role, admin, member, flag, rfl⟩)

/-- A resolved identity's tenant is missing or a stored namespace's identifier. -/
theorem resolve_tenant {service : AuthnService} {headers : Headers} {identity : Identity}
    (resolved : service.resolve headers = some identity) :
    identity.tenantID = "" ∨ isUUID identity.tenantID := by
  rcases resolve_cases resolved with ⟨key, grant, _, found, rfl⟩ |
    ⟨token, uid, tenantID, found, rfl⟩ | ⟨id, username, tenantID, role, admin, member, _, rfl⟩
  · exact .inr (service.keyTenant key grant found)
  · exact .inr (service.deviceTenant token uid tenantID found)
  · by_cases empty : tenantID = ""
    · exact .inl empty
    · rw [Answers.currentRole, if_neg empty] at member
      exact .inr (service.userTenant tenantID id role member)

/-- Only a user's token makes an admin, and a user has an identifier. -/
theorem resolve_admin {service : AuthnService} {headers : Headers} {identity : Identity}
    (resolved : service.resolve headers = some identity) (nobody : identity.id = "") :
    identity.admin = false := by
  rcases resolve_cases resolved with ⟨key, grant, _, _, rfl⟩ | ⟨token, uid, tenantID, _, rfl⟩ |
    ⟨id, username, tenantID, role, admin, _, flag, rfl⟩
  · rfl
  · rfl
  · have missing : id = "" := nobody
    rw [missing, service.userID] at flag
    cases flag

/-- A text that matches a pattern has only hyphens and lower-case digits. -/
theorem matchesPattern_letters {pattern text : List Char} (fits : matchesPattern pattern text) :
    ∀ letter ∈ text, letter = '-' ∨ isLowerHex letter := by
  induction pattern generalizing text with
  | nil =>
    cases text with
    | nil => simp
    | cons letter text => cases fits
  | cons sample pattern ih =>
    cases text with
    | nil => cases fits
    | cons first text =>
      simp only [matchesPattern, Bool.and_eq_true] at fits
      intro letter member
      rcases List.mem_cons.mp member with rfl | later
      · split at fits
        · exact .inl (by simpa using fits.1)
        · exact .inr fits.1
      · exact ih fits.2 letter later

/-- A uuid has no percent sign, so decoding it as a path value changes nothing. -/
theorem pathUnescape_uuid {text : String} (uuid : isUUID text) : pathUnescape text = text := by
  refine pathUnescape_plain ?_
  intro member
  rcases matchesPattern_letters uuid '%' member with hyphen | digit
  · cases hyphen
  · cases digit

/-- A uuid is not empty. -/
theorem ne_empty_of_uuid {text : String} (uuid : isUUID text) : text ≠ "" := by
  rintro rfl
  cases uuid

end ShellHub.Identities
