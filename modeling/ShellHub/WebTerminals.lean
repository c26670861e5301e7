import Mathlib.Algebra.Group.Nat.Defs
import ShellHub.Sequences

/-!
# Tokens of web terminals

A browser posts its credentials and gets a token. It then opens a WebSocket with the token, and the
bridge opens a terminal session with the credentials saved under it. The upgrade is not
authenticated: the token is its only guard. Saved credentials leave the manager when their timer
fires, and not when they are used.

The manager keeps pointers. The password is encrypted when the credentials are saved and decrypted
in place by an upgrade that has found them, which is why a credential is an object with a place
here. The handlers of several requests run at the same time; each step of an upgrade is one access
to the manager or to an object.
-/

namespace ShellHub.Web

open Sequences

/-! ## Credentials and handshakes -/

structure Credentials where
  device : String
  username : String
  password : String
  fingerprint : String
  publicKey : String
  /-- The account behind the request, from the header and never from the body. -/
  userID : String
  deriving DecidableEq

/-- The password is replaced by its ciphertext, if there is a password and it can be encrypted. -/
def Credentials.encryptPassword (credentials : Credentials) (ciphertext : Option String) :
    Credentials :=
  if credentials.password = "" then credentials
  else match ciphertext with
    | none => credentials
    | some text => { credentials with password := text }

/-- What `decryptPassword` writes, if it gets that far. `decrypt` decodes and decrypts with the key
    of the server. -/
def Credentials.decryptedPassword (decrypt : String → Option String) (credentials : Credentials) :
    Option String :=
  if credentials.password = "" then none else decrypt credentials.password

/-- The write of `decryptPassword`, whose error the bridge ignores. -/
def Credentials.withPassword (credentials : Credentials) : Option String → Credentials
  | none => credentials
  | some text => { credentials with password := text }

structure Dimensions where
  cols : Nat
  rows : Nat
  deriving DecidableEq

/-- The parameters of an upgrade, as the request brings them. An absent one is empty. -/
structure Handshake where
  token : String
  cols : String
  rows : String
  realIP : String
  deriving DecidableEq

inductive WebError where
  | webSocketGetToken
  | webSocketGetDimensions
  | webSocketGetIP
  | bridgeCredentialsNotFound
  deriving DecidableEq

def getToken (handshake : Handshake) : Except WebError String :=
  if handshake.token = "" then .error .webSocketGetToken else .ok handshake.token

/-- A decimal number of 32 bits. -/
def toUint32 (text : String) : Option Nat :=
  if text ≠ "" ∧ text.toList.all Char.isDigit then
    let number := text.toList.foldl (fun number char => number * 10 + (char.toNat - '0'.toNat)) 0
    if number < 2 ^ 32 then some number else none
  else none

def getDimensions (handshake : Handshake) : Except WebError Dimensions :=
  match toUint32 handshake.cols, toUint32 handshake.rows with
  | some cols, some rows => .ok ⟨cols, rows⟩
  | _, _ => .error .webSocketGetDimensions

def getIP (handshake : Handshake) : Except WebError String :=
  if handshake.realIP = "" then .error .webSocketGetIP else .ok handshake.realIP

/-- The checks of an upgrade before the manager is asked. -/
def Handshake.check (handshake : Handshake) : Except WebError (String × Dimensions × String) := do
  let token ← getToken handshake
  let dimensions ← getDimensions handshake
  let ip ← getIP handshake
  return (token, dimensions, ip)

/-- The token that is looked up is the one that was presented. -/
theorem Handshake.check_token {handshake : Handshake} {token ip : String} {dimensions : Dimensions}
    (checked : handshake.check = .ok (token, dimensions, ip)) : token = handshake.token := by
  simp only [check, getToken] at checked
  split at checked
  · cases checked
  · cases dimensioned : getDimensions handshake with
    | error error => rw [dimensioned] at checked; cases checked
    | ok size =>
      cases addressed : getIP handshake with
      | error error => rw [dimensioned, addressed] at checked; cases checked
      | ok address => rw [dimensioned, addressed] at checked; cases checked; rfl

/-! ## The bridge -/

/-- How far an upgrade is. -/
inductive Phase where
  | arrived
  | refused (error : WebError)
  /-- The manager returned the credentials at a place. -/
  | found (place : Nat) (dimensions : Dimensions) (ip : String)
  /-- The password was read and decrypted, and is not written yet. -/
  | decrypted (place : Nat) (dimensions : Dimensions) (ip : String) (password : Option String)
  | ready (place : Nat) (dimensions : Dimensions) (ip : String)
  /-- `newSession` was called. -/
  | session (credentials : Credentials) (dimensions : Dimensions) (ip : String)
  deriving DecidableEq

structure Upgrade where
  handshake : Handshake
  phase : Phase
  deriving DecidableEq

/-- The token let the connection proceed. -/
def Phase.passed : Phase → Bool
  | .arrived | .refused _ => false
  | .found .. | .decrypted .. | .ready .. | .session .. => true

/-- The upgrade has written the decrypted password. -/
def Phase.written : Phase → Bool
  | .ready .. | .session .. => true
  | _ => false

/-- A post that was answered with a token. -/
structure Post where
  token : String
  request : Credentials
  ciphertext : Option String
  deriving DecidableEq

/-- The credentials of a post as they are saved. -/
def Post.saved (post : Post) : Credentials := post.request.encryptPassword post.ciphertext

/-- The credentials of a post after they were decrypted once. -/
def Post.opened (decrypt : String → Option String) (post : Post) : Credentials :=
  post.saved.withPassword (post.saved.decryptedPassword decrypt)

structure Bridge where
  /-- The credentials that posts have allocated, each at its place. -/
  objects : List Credentials
  /-- The credentials of the manager, by token. -/
  credentials : String → Option Nat
  /-- The timers that will delete credentials. -/
  timers : List String
  upgrades : List Upgrade
  /-- The answered posts, which no handler reads. -/
  posts : List Post
  /-- The tokens whose timers have fired, which no handler reads. -/
  expired : List String

inductive Event where
  /-- A post of credentials, with the identifier of the token unless none could be made. -/
  | post (request : Credentials) (token : Option String) (ciphertext : Option String)
  | upgrade (handshake : Handshake)
  /-- The next step of an upgrade. -/
  | step (index : Nat)
  /-- A timer fires. -/
  | expire (token : String)
  deriving DecidableEq

/-- `manager.save`. -/
def Bridge.save (bridge : Bridge) (post : Post) : Bridge :=
  { bridge with
    objects := bridge.objects ++ [post.saved]
    credentials := fun id =>
      if id = post.token then some bridge.objects.length else bridge.credentials id
    timers := post.token :: bridge.timers
    posts := bridge.posts ++ [post] }

/-- `manager.get`. -/
def Bridge.get (bridge : Bridge) (token : String) : Option Nat := bridge.credentials token

/-- The credentials of a token leave the manager. -/
def Bridge.delete (bridge : Bridge) (token : String) : Bridge :=
  { bridge with
    credentials := fun id => if id = token then none else bridge.credentials id
    timers := bridge.timers.erase token
    expired := token :: bridge.expired }

/-- The objects and the phase after the next step of an upgrade. -/
def Bridge.advance (decrypt : String → Option String) (bridge : Bridge) (upgrade : Upgrade) :
    List Credentials × Phase :=
  match upgrade.phase with
  | .arrived =>
    match upgrade.handshake.check with
    | .error error => (bridge.objects, .refused error)
    | .ok (token, dimensions, ip) =>
      match bridge.get token with
      | none => (bridge.objects, .refused .bridgeCredentialsNotFound)
      | some place => (bridge.objects, .found place dimensions ip)
  | .found place dimensions ip =>
    match bridge.objects[place]? with
    | none => (bridge.objects, upgrade.phase)
    | some credentials =>
      (bridge.objects, .decrypted place dimensions ip (credentials.decryptedPassword decrypt))
  | .decrypted place dimensions ip password =>
    (bridge.objects.modify place (·.withPassword password), .ready place dimensions ip)
  | .ready place dimensions ip =>
    match bridge.objects[place]? with
    | none => (bridge.objects, upgrade.phase)
    | some credentials => (bridge.objects, .session credentials dimensions ip)
  | .refused _ | .session .. => (bridge.objects, upgrade.phase)

/-- The bridge after an event. -/
def Bridge.next (decrypt : String → Option String) (bridge : Bridge) : Event → Bridge
  | .post _ none _ => bridge
  | .post request (some token) ciphertext => bridge.save ⟨token, request, ciphertext⟩
  | .upgrade handshake => { bridge with upgrades := bridge.upgrades ++ [⟨handshake, .arrived⟩] }
  | .step index =>
    match bridge.upgrades[index]? with
    | none => bridge
    | some upgrade =>
      let (objects, phase) := bridge.advance decrypt upgrade
      { bridge with objects, upgrades := bridge.upgrades.set index ⟨upgrade.handshake, phase⟩ }
  | .expire token => if token ∈ bridge.timers then bridge.delete token else bridge

/-- A bridge that has just been created. -/
def Bridge.new : Bridge := ⟨[], fun _ => none, [], [], [], []⟩

/-- The event draws a new identifier, and presents a token that no upgrade has presented before. -/
def Presented (bridge : Bridge) : Event → Prop
  | .post _ (some token) _ => ∀ post ∈ bridge.posts, post.token ≠ token
  | .upgrade handshake => ∀ upgrade ∈ bridge.upgrades, upgrade.handshake.token ≠ handshake.token
  | _ => True

instance (bridge : Bridge) : (event : Event) → Decidable (Presented bridge event)
  | .post _ (some token) _ =>
    inferInstanceAs (Decidable (∀ post ∈ bridge.posts, post.token ≠ token))
  | .upgrade handshake =>
    inferInstanceAs (Decidable (∀ upgrade ∈ bridge.upgrades,
      upgrade.handshake.token ≠ handshake.token))
  | .post _ none _ | .step _ | .expire _ => .isTrue trivial

/-! ## What holds while no token is presented twice -/

/-- What an upgrade has got so far is what was posted under its token. -/
def Upgrade.Stands (decrypt : String → Option String) (posts : List Post)
    (objects : List Credentials) (upgrade : Upgrade) : Prop :=
  match upgrade.phase with
  | .arrived | .refused _ => True
  | .found place _ _ => ∃ post, posts[place]? = some post ∧ post.token = upgrade.handshake.token
  | .decrypted place _ _ password =>
    ∃ post, posts[place]? = some post ∧ post.token = upgrade.handshake.token ∧
      password = post.saved.decryptedPassword decrypt
  | .ready place _ _ =>
    ∃ post, posts[place]? = some post ∧ post.token = upgrade.handshake.token ∧
      objects[place]? = some (post.opened decrypt)
  | .session credentials _ _ =>
    ∃ post ∈ posts, post.token = upgrade.handshake.token ∧ credentials = post.opened decrypt

/-- Later posts change nothing for an upgrade. -/
theorem Upgrade.Stands.append {decrypt : String → Option String} {posts : List Post}
    {objects : List Credentials} {upgrade : Upgrade} (stands : upgrade.Stands decrypt posts objects)
    (post : Post) (object : Credentials) :
    upgrade.Stands decrypt (posts ++ [post]) (objects ++ [object]) := by
  have kept : ∀ {α : Type} {list : List α} {place : Nat} {entry last : α},
      list[place]? = some entry → (list ++ [last])[place]? = some entry := by
    intro α list place entry last found
    obtain ⟨bound, _⟩ := List.getElem?_eq_some_iff.mp found
    rwa [List.getElem?_append_left bound]
  unfold Stands at *
  split at stands
  · trivial
  · trivial
  · obtain ⟨old, found, same⟩ := stands
    exact ⟨old, kept found, same⟩
  · obtain ⟨old, found, same⟩ := stands
    exact ⟨old, kept found, same⟩
  · obtain ⟨old, found, same, opened⟩ := stands
    exact ⟨old, kept found, same, kept opened⟩
  · obtain ⟨old, member, same⟩ := stands
    exact ⟨old, List.mem_append_left _ member, same⟩

/-- With distinct keys, an entry is found by its key. -/
theorem place_unique {α κ : Type} {key : α → κ} {list : List α} (distinct : (list.map key).Nodup)
    {place other : Nat} {first second : α} (one : list[place]? = some first)
    (two : list[other]? = some second) (same : key first = key second) : place = other := by
  have bound : place < (list.map key).length := by
    rw [List.length_map]
    exact (List.getElem?_eq_some_iff.mp one).1
  have keys : (list.map key)[place]? = (list.map key)[other]? := by
    simp only [List.getElem?_map, one, two, Option.map_some, same]
  exact (List.getElem?_inj bound distinct).mp keys

/-- An entry with a new key keeps the keys distinct. -/
theorem nodup_snoc {α κ : Type} {key : α → κ} {list : List α} (distinct : (list.map key).Nodup)
    {last : α} (new : ∀ entry ∈ list, key entry ≠ key last) :
    ((list ++ [last]).map key).Nodup := by
  rw [List.map_append, List.map_singleton, List.nodup_append]
  refine ⟨distinct, List.nodup_cons.mpr ⟨List.not_mem_nil, List.nodup_nil⟩, ?_⟩
  intro old member added single
  obtain ⟨entry, inside, rfl⟩ := List.mem_map.mp member
  rw [List.mem_singleton.mp single]
  exact new entry inside

structure Sound (decrypt : String → Option String) (bridge : Bridge) : Prop where
  aligned : bridge.objects.length = bridge.posts.length
  /-- No identifier is drawn twice. -/
  drawn : (bridge.posts.map Post.token).Nodup
  /-- No token is presented twice. -/
  presented : (bridge.upgrades.map (·.handshake.token)).Nodup
  /-- The manager knows no credentials but the posted ones, and forgets them at the end. -/
  managed : ∀ token place, bridge.get token = some place →
    (∃ post, bridge.posts[place]? = some post ∧ post.token = token) ∧ token ∉ bridge.expired
  timed : ∀ token, token ∈ bridge.timers ∨ token ∈ bridge.expired →
    ∃ post ∈ bridge.posts, post.token = token
  /-- Credentials stay as they were saved until an upgrade writes the password. -/
  untouched : ∀ (place : Nat) (post : Post), bridge.posts[place]? = some post →
    (∀ upgrade ∈ bridge.upgrades, upgrade.handshake.token = post.token →
      upgrade.phase.written = false) → bridge.objects[place]? = some post.saved
  stands : ∀ upgrade ∈ bridge.upgrades, upgrade.Stands decrypt bridge.posts bridge.objects

section Steps

variable {decrypt : String → Option String} {bridge : Bridge}

theorem Sound.new : Sound decrypt Bridge.new := by
  constructor <;> simp [Bridge.new, Bridge.get]

/-- An entry of a list with one more at its end is the last one or an entry of the list. -/
theorem getElem?_snoc {α : Type} {list : List α} {last entry : α} {place : Nat}
    (found : (list ++ [last])[place]? = some entry) :
    list[place]? = some entry ∨ (place = list.length ∧ entry = last) := by
  by_cases inside : place < list.length
  · left
    rwa [List.getElem?_append_left inside] at found
  · right
    have bound : place < (list ++ [last]).length := (List.getElem?_eq_some_iff.mp found).1
    have same : place = list.length := by
      rw [List.length_append, List.length_singleton] at bound
      omega
    subst same
    rw [List.getElem?_concat_length] at found
    exact ⟨rfl, (Option.some.inj found).symm⟩

theorem Sound.save (sound : Sound decrypt bridge) {post : Post}
    (new : ∀ other ∈ bridge.posts, other.token ≠ post.token) :
    Sound decrypt (bridge.save post) where
  aligned := by simp [Bridge.save, sound.aligned]
  drawn := nodup_snoc sound.drawn new
  presented := sound.presented
  managed := by
    intro token place found
    simp only [Bridge.get, Bridge.save] at found
    split at found
    · rename_i same
      subst same
      cases found
      constructor
      · refine ⟨post, ?_, rfl⟩
        rw [sound.aligned]
        exact List.getElem?_concat_length
      · intro gone
        obtain ⟨other, member, same⟩ := sound.timed post.token (.inr gone)
        exact new other member same
    · obtain ⟨⟨old, at_place, same⟩, alive⟩ := sound.managed token place found
      refine ⟨⟨old, ?_, same⟩, alive⟩
      exact (List.getElem?_append_left (List.getElem?_eq_some_iff.mp at_place).1).trans at_place
  timed := by
    intro token known
    rcases known with timer | gone
    · rcases List.mem_cons.mp timer with rfl | old
      · exact ⟨post, List.mem_append_right _ (List.mem_singleton_self post), rfl⟩
      · obtain ⟨other, member, same⟩ := sound.timed token (.inl old)
        exact ⟨other, List.mem_append_left _ member, same⟩
    · obtain ⟨other, member, same⟩ := sound.timed token (.inr gone)
      exact ⟨other, List.mem_append_left _ member, same⟩
  untouched := by
    intro place entry found closed
    rcases getElem?_snoc found with old | ⟨rfl, rfl⟩
    · have kept := sound.untouched place entry old closed
      exact (List.getElem?_append_left (List.getElem?_eq_some_iff.mp kept).1).trans kept
    · simp only [Bridge.save, ← sound.aligned]
      exact List.getElem?_concat_length
  stands := fun upgrade member => (sound.stands upgrade member).append post post.saved

theorem Sound.arrive (sound : Sound decrypt bridge) {handshake : Handshake}
    (new : ∀ upgrade ∈ bridge.upgrades, upgrade.handshake.token ≠ handshake.token) :
    Sound decrypt { bridge with upgrades := bridge.upgrades ++ [⟨handshake, .arrived⟩] } where
  aligned := sound.aligned
  drawn := sound.drawn
  presented := nodup_snoc sound.presented new
  managed := sound.managed
  timed := sound.timed
  untouched := fun place post found closed =>
    sound.untouched place post found fun upgrade member =>
      closed upgrade (List.mem_append_left _ member)
  stands := List.forall_mem_append.mpr ⟨sound.stands, List.forall_mem_singleton.mpr trivial⟩

theorem Sound.delete (sound : Sound decrypt bridge) {token : String}
    (timer : token ∈ bridge.timers) : Sound decrypt (bridge.delete token) where
  aligned := sound.aligned
  drawn := sound.drawn
  presented := sound.presented
  managed := by
    intro id place found
    simp only [Bridge.get, Bridge.delete] at found
    split at found
    · cases found
    · rename_i different
      obtain ⟨posted, alive⟩ := sound.managed id place found
      refine ⟨posted, ?_⟩
      intro gone
      rcases List.mem_cons.mp gone with same | old
      · exact different same
      · exact alive old
  timed := by
    intro id known
    rcases known with later | gone
    · exact sound.timed id (.inl (List.mem_of_mem_erase later))
    · rcases List.mem_cons.mp gone with rfl | old
      · exact sound.timed id (.inl timer)
      · exact sound.timed id (.inr old)
  untouched := sound.untouched
  stands := sound.stands

/-- What a step of an upgrade does to the objects and to its phase. -/
inductive Move (decrypt : String → Option String) (bridge : Bridge) (handshake : Handshake) :
    Phase → List Credentials → Phase → Prop where
  | stay (phase : Phase) : Move decrypt bridge handshake phase bridge.objects phase
  | refuse (error : WebError) :
    Move decrypt bridge handshake .arrived bridge.objects (.refused error)
  | find {place : Nat} (dimensions : Dimensions) (ip : String)
    (found : bridge.get handshake.token = some place) :
    Move decrypt bridge handshake .arrived bridge.objects (.found place dimensions ip)
  | read {place : Nat} (dimensions : Dimensions) (ip : String) {credentials : Credentials}
    (held : bridge.objects[place]? = some credentials) :
    Move decrypt bridge handshake (.found place dimensions ip) bridge.objects
      (.decrypted place dimensions ip (credentials.decryptedPassword decrypt))
  | write (place : Nat) (dimensions : Dimensions) (ip : String) (password : Option String) :
    Move decrypt bridge handshake (.decrypted place dimensions ip password)
      (bridge.objects.modify place (·.withPassword password)) (.ready place dimensions ip)
  | start {place : Nat} (dimensions : Dimensions) (ip : String) {credentials : Credentials}
    (held : bridge.objects[place]? = some credentials) :
    Move decrypt bridge handshake (.ready place dimensions ip) bridge.objects
      (.session credentials dimensions ip)

theorem advance_move (decrypt : String → Option String) (bridge : Bridge) (upgrade : Upgrade) :
    Move decrypt bridge upgrade.handshake upgrade.phase (bridge.advance decrypt upgrade).1
      (bridge.advance decrypt upgrade).2 := by
  obtain ⟨handshake, phase⟩ := upgrade
  cases phase with
  | arrived =>
    dsimp only [Bridge.advance]
    cases checked : handshake.check with
    | error error => exact .refuse error
    | ok checks =>
      obtain ⟨token, dimensions, ip⟩ := checks
      have same := Handshake.check_token checked
      subst same
      dsimp only
      cases found : bridge.get handshake.token with
      | none => exact .refuse _
      | some place => exact .find dimensions ip found
  | refused error => exact .stay _
  | found place dimensions ip =>
    dsimp only [Bridge.advance]
    cases held : bridge.objects[place]? with
    | none => exact .stay _
    | some credentials => exact .read dimensions ip held
  | decrypted place dimensions ip password => exact .write place dimensions ip password
  | ready place dimensions ip =>
    dsimp only [Bridge.advance]
    cases held : bridge.objects[place]? with
    | none => exact .stay _
    | some credentials => exact .start dimensions ip held
  | session credentials dimensions ip => exact .stay _

/-- A new phase changes no token. -/
theorem tokens_set {upgrades : List Upgrade} {index : Nat} {upgrade : Upgrade}
    (present : upgrades[index]? = some upgrade) (phase : Phase) :
    (upgrades.set index ⟨upgrade.handshake, phase⟩).map (·.handshake.token) =
      upgrades.map (·.handshake.token) := by
  obtain ⟨bound, rfl⟩ := List.getElem?_eq_some_iff.mp present
  apply List.ext_getElem?
  intro place
  rw [List.getElem?_map, List.getElem?_map, List.getElem?_set]
  by_cases same : index = place
  · subst same
    simp [bound]
  · rw [if_neg same]

/-- The upgrades other than the one that takes a step stay. -/
theorem mem_set_of_mem {upgrades : List Upgrade} {index : Nat} {upgrade other : Upgrade}
    (present : upgrades[index]? = some upgrade) (member : other ∈ upgrades) (new : Upgrade) :
    other = upgrade ∨ other ∈ upgrades.set index new := by
  obtain ⟨place, found⟩ := List.mem_iff_getElem?.mp member
  by_cases same : index = place
  · subst same
    exact .inl (Option.some.inj (found.symm.trans present))
  · right
    apply List.mem_of_getElem? (i := place)
    rwa [List.getElem?_set_ne same]

/-- If no upgrade with a token has written after a step, none had before. -/
theorem unwritten_before {upgrades : List Upgrade} {index : Nat} {upgrade : Upgrade}
    (present : upgrades[index]? = some upgrade) {phase : Phase}
    (written : upgrade.phase.written = true → phase.written = true) {token : String}
    (closed : ∀ other ∈ upgrades.set index ⟨upgrade.handshake, phase⟩,
      other.handshake.token = token → other.phase.written = false) :
    ∀ other ∈ upgrades, other.handshake.token = token → other.phase.written = false := by
  intro other member same
  rcases mem_set_of_mem present member ⟨upgrade.handshake, phase⟩ with rfl | stays
  · have bound := (List.getElem?_eq_some_iff.mp present).1
    have later := closed _ (List.mem_set bound _) same
    cases before : other.phase.written with
    | false => rfl
    | true => rw [written before] at later; cases later
  · exact closed other stays same

variable (sound : Sound decrypt bridge)

include sound

/-- A step that writes no object keeps the invariant if the upgrade still has what was posted. -/
theorem Sound.moved {index : Nat} {upgrade : Upgrade}
    (present : bridge.upgrades[index]? = some upgrade) {phase : Phase}
    (written : upgrade.phase.written = true → phase.written = true)
    (stands : Upgrade.Stands decrypt bridge.posts bridge.objects ⟨upgrade.handshake, phase⟩) :
    Sound decrypt
      { bridge with upgrades := bridge.upgrades.set index ⟨upgrade.handshake, phase⟩ } where
  aligned := sound.aligned
  drawn := sound.drawn
  presented := by
    rw [tokens_set present]
    exact sound.presented
  managed := sound.managed
  timed := sound.timed
  untouched := fun place post found closed =>
    sound.untouched place post found (unwritten_before present written closed)
  stands := set_keeps sound.stands stands

/-- Until the upgrade with a token has written the password, the credentials are as they were saved.
-/
theorem Sound.still_saved {index place : Nat} {upgrade : Upgrade}
    (present : bridge.upgrades[index]? = some upgrade) (unwritten : upgrade.phase.written = false)
    {post : Post} (posted : bridge.posts[place]? = some post)
    (same : post.token = upgrade.handshake.token) : bridge.objects[place]? = some post.saved := by
  apply sound.untouched place post posted
  intro other member shared
  obtain ⟨position, found⟩ := List.mem_iff_getElem?.mp member
  have equal := place_unique sound.presented found present (shared.trans same)
  subst equal
  cases found.symm.trans present
  exact unwritten

/-- The upgrade that writes the password is the only one with its token, so nobody else is affected.
-/
theorem Sound.wrote {index : Nat} {handshake : Handshake} {place : Nat} {dimensions : Dimensions}
    {ip : String} {password : Option String}
    (present : bridge.upgrades[index]? = some ⟨handshake, .decrypted place dimensions ip password⟩) :
    Sound decrypt
      { bridge with
        objects := bridge.objects.modify place (·.withPassword password)
        upgrades := bridge.upgrades.set index ⟨handshake, .ready place dimensions ip⟩ } := by
  obtain ⟨post, posted, same, rfl⟩ := sound.stands _ (List.mem_of_getElem? present)
  have saved := sound.still_saved present rfl posted same
  -- Credentials of another token are at another place.
  have elsewhere : ∀ {other : Nat} {again : Post}, bridge.posts[other]? = some again →
      again.token ≠ handshake.token →
      (bridge.objects.modify place
        (·.withPassword (post.saved.decryptedPassword decrypt)))[other]? =
        bridge.objects[other]? := by
    intro other again found different
    apply List.getElem?_modify_ne
    rintro rfl
    cases found.symm.trans posted
    exact different same
  have kept : ∀ other ∈ bridge.upgrades, other.handshake.token ≠ handshake.token →
      other.Stands decrypt bridge.posts (bridge.objects.modify place
        (·.withPassword (post.saved.decryptedPassword decrypt))) := by
    intro other member different
    have stood := sound.stands other member
    obtain ⟨shook, phase⟩ := other
    cases phase with
    | ready away _ _ =>
      obtain ⟨again, found, shared, opened⟩ := stood
      refine ⟨again, found, shared, ?_⟩
      rwa [elsewhere found (shared.symm ▸ different)]
    | _ => exact stood
  constructor
  · rw [List.length_modify]
    exact sound.aligned
  · exact sound.drawn
  · rw [tokens_set present]
    exact sound.presented
  · exact sound.managed
  · exact sound.timed
  · intro other again found closed
    have bound := (List.getElem?_eq_some_iff.mp present).1
    have different : again.token ≠ handshake.token := by
      intro shared
      have written := closed _ (List.mem_set bound _) shared.symm
      cases written
    rw [elsewhere found different]
    apply sound.untouched other again found
    exact unwritten_before present (fun impossible => by cases impossible) closed
  · intro other member
    obtain ⟨position, found⟩ := List.mem_iff_getElem?.mp member
    by_cases here : index = position
    · subst here
      rw [List.getElem?_set_self (List.getElem?_eq_some_iff.mp present).1] at found
      cases found
      refine ⟨post, posted, same, ?_⟩
      rw [List.getElem?_modify_eq, saved]
      rfl
    · rw [List.getElem?_set_ne here] at found
      apply kept other (List.mem_of_getElem? found)
      intro shared
      exact here (place_unique sound.presented present found shared.symm)

/-- A step of an upgrade keeps the invariant. -/
theorem Sound.step {index : Nat} {upgrade : Upgrade}
    (present : bridge.upgrades[index]? = some upgrade) {objects : List Credentials} {phase : Phase}
    (move : Move decrypt bridge upgrade.handshake upgrade.phase objects phase) :
    Sound decrypt
      { bridge with objects, upgrades := bridge.upgrades.set index ⟨upgrade.handshake, phase⟩ } := by
  have stands := sound.stands upgrade (List.mem_of_getElem? present)
  obtain ⟨handshake, before⟩ := upgrade
  cases move with
  | stay => exact sound.moved present id stands
  | refuse error =>
    apply sound.moved present
    · exact fun impossible => impossible
    · trivial
  | find dimensions ip found =>
    apply sound.moved present
    · exact fun impossible => impossible
    · exact (sound.managed handshake.token _ found).1
  | @read place dimensions ip credentials held =>
    apply sound.moved present
    · exact fun impossible => impossible
    · obtain ⟨post, posted, same⟩ := stands
      refine ⟨post, posted, same, ?_⟩
      cases held.symm.trans (sound.still_saved present rfl posted same)
      rfl
  | write => exact sound.wrote present
  | start dimensions ip held =>
    apply sound.moved present
    · exact id
    · obtain ⟨post, posted, same, opened⟩ := stands
      exact ⟨post, List.mem_of_getElem? posted, same, Option.some.inj (held.symm.trans opened)⟩

/-- Every event keeps the invariant while no token is drawn or presented twice. -/
theorem Sound.next {event : Event} (presented : Presented bridge event) :
    Sound decrypt (bridge.next decrypt event) := by
  cases event with
  | post request token ciphertext =>
    cases token with
    | none => exact sound
    | some token => exact sound.save presented
  | upgrade handshake => exact sound.arrive presented
  | step index =>
    dsimp only [Bridge.next]
    cases present : bridge.upgrades[index]? with
    | none => exact sound
    | some upgrade => exact sound.step present (advance_move decrypt bridge upgrade)
  | expire token =>
    dsimp only [Bridge.next]
    split
    · exact sound.delete ‹_›
    · exact sound

end Steps

/-- The key of the server decrypts one ciphertext. -/
def opens (text : String) : Option String := if text = "5ea1" then some "secret" else none

/-- An upgrade of a terminal of the usual size. -/
def present (token : String) : Event := .upgrade ⟨token, "80", "24", "10.0.0.7"⟩

end ShellHub.Web
