import Mathlib.Data.List.Basic

/-!
# The vault and its password

A vault keeps private keys encrypted in a store, under a key that is derived from a password. While
it is unlocked, the browser holds the keys in the clear. Changing the password encrypts them again
in several awaited steps. At each of these steps the vault may be locked, by the user or because
the page was idle or hidden, and each call of the store may fail.

Encryption is ideal: a ciphertext is a value with the key that made it, and only that key opens it.
A call of the store that fails may have had its effect or not. The activity tracker is left out, it
only decides when the vault is locked.
-/

namespace ShellHub.Vaults

/-! ## Keys and ciphertexts -/

/-- An entry of the vault. -/
structure VaultKeyEntry where
  id : String
  name : String
  data : String
  hasPassphrase : Bool
  fingerprint : String
  algorithm : Option String
  createdAt : String
  updatedAt : String
  deriving DecidableEq, Repr

/-- The key that is derived from a password and a salt. -/
structure CryptoKey where
  password : String
  salt : String
  deriving DecidableEq, Repr

/-- A ciphertext, which only the key that made it opens. -/
structure Sealed (α : Type) where
  key : CryptoKey
  content : α
  deriving DecidableEq, Repr

/-- `encrypt`. -/
def encrypt {α : Type} (key : CryptoKey) (content : α) : Sealed α := ⟨key, content⟩

/-- `decrypt`. -/
def decrypt {α : Type} (key : CryptoKey) (box : Sealed α) : Option α :=
  if box.key = key then some box.content else none

/-- What is stored to check a password. -/
structure VaultMeta where
  salt : String
  verifier : Sealed String
  deriving DecidableEq, Repr

/-- The encrypted entries. -/
abbrev VaultData := Sealed (List VaultKeyEntry)

/-- `createVaultMeta`, with the salt that was drawn. -/
def createVaultMeta (password salt : String) : VaultMeta × CryptoKey :=
  (⟨salt, encrypt ⟨password, salt⟩ "shellhub-vault-ok"⟩, ⟨password, salt⟩)

/-- `verifyPassword`. -/
def verifyPassword (password : String) (stored : VaultMeta) : Option CryptoKey :=
  if decrypt ⟨password, stored.salt⟩ stored.verifier = some "shellhub-vault-ok" then
    some ⟨password, stored.salt⟩
  else none

/-- What the backend stores. -/
structure Storage where
  vaultMeta : Option VaultMeta
  data : Option VaultData
  deriving DecidableEq, Repr

/-- The entries as they are read at an unlock. A vault without data has none. -/
def readKeys (key : CryptoKey) (data : Option VaultData) : Option (List VaultKeyEntry) :=
  match data with
  | none => some []
  | some box => decrypt key box

/-- The stored data decrypts, under the key that the password and the stored meta give, to the
entries. -/
def Storage.Holds (storage : Storage) (password : String) (keys : List VaultKeyEntry) : Prop :=
  ∃ stored, storage.vaultMeta = some stored ∧
    readKeys ⟨password, stored.salt⟩ storage.data = some keys

/-! ## The browser -/

inductive VaultStatus where
  | uninitialized
  | locked
  | unlocked
  deriving DecidableEq, Repr

/-- The state of the vault in the browser, with the session key. -/
structure Browser where
  status : VaultStatus
  keys : List VaultKeyEntry
  sessionKey : Option CryptoKey
  loading : Bool
  error : Option String
  autoLockNonce : Nat
  deriving DecidableEq, Repr

/-- What may happen in the browser at an await. -/
inductive Interruption where
  | lock
  | idle
  deriving DecidableEq, Repr

namespace Browser

/-- `lock`. -/
def lock (browser : Browser) : Browser :=
  { browser with status := .locked, keys := [], sessionKey := none, error := none }

/-- `onIdle`, when the page was idle or hidden for too long. -/
def onIdle (browser : Browser) : Browser :=
  if browser.status ≠ .unlocked then browser
  else { browser.lock with autoLockNonce := browser.autoLockNonce + 1 }

def interrupt (browser : Browser) : Interruption → Browser
  | .lock => browser.lock
  | .idle => browser.onIdle

end Browser

/-- A failure of a call of the backend, which may have had its effect. -/
structure Failure where
  message : String
  applied : Bool
  deriving DecidableEq, Repr

/-- What happens while a call is awaited. -/
structure Moment where
  failure : Option Failure
  interruptions : List Interruption
  deriving DecidableEq, Repr

/-- A vault: the backend and the browser. -/
structure Vault where
  storage : Storage
  browser : Browser
  deriving DecidableEq, Repr

namespace Vault

/-- The browser is interrupted at an await. -/
def pass (vault : Vault) (moment : Moment) : Vault :=
  { vault with browser := moment.interruptions.foldl Browser.interrupt vault.browser }

/-- A read of the backend. -/
def load {α : Type} (vault : Vault) (moment : Moment) (read : Storage → α) :
    Except String α × Vault :=
  match moment.failure with
  | none => (.ok (read vault.storage), vault.pass moment)
  | some failure => (.error failure.message, vault.pass moment)

/-- A write to the backend. -/
def save (vault : Vault) (moment : Moment) (write : Storage → Storage) :
    Except String Unit × Vault :=
  let written := { vault with storage := write vault.storage }
  match moment.failure with
  | none => (.ok (), written.pass moment)
  | some failure =>
    (.error failure.message, if failure.applied then written.pass moment else vault.pass moment)

/-- `saveData`. -/
def saveData (vault : Vault) (moment : Moment) (data : VaultData) : Except String Unit × Vault :=
  vault.save moment fun storage => { storage with data := some data }

/-- `saveMeta`. -/
def saveMeta (vault : Vault) (moment : Moment) (stored : VaultMeta) :
    Except String Unit × Vault :=
  vault.save moment fun storage => { storage with vaultMeta := some stored }

def setSessionKey (vault : Vault) (key : CryptoKey) : Vault :=
  { vault with browser := { vault.browser with sessionKey := some key } }

/-- The call begins. -/
def starting (vault : Vault) : Vault :=
  { vault with browser := { vault.browser with loading := true, error := none } }

/-- The call ends without an error. -/
def succeeded (vault : Vault) : Vault :=
  { vault with browser := { vault.browser with loading := false } }

/-- The call ends with an error. -/
def failed (vault : Vault) (message : String) : Vault :=
  { vault with browser := { vault.browser with loading := false, error := some message } }

end Vault

/-- What happens at each await of a change of the password, and the salt that is drawn. -/
structure Awaits where
  loadMeta : Moment
  verifyPassword : Moment
  createVaultMeta : Moment
  loadData : Moment
  encrypt : Moment
  saveData : Moment
  saveMeta : Moment
  restoreData : Moment
  restoreMeta : Moment
  salt : String

/-- `persistKeys`: the entries are taken before the first await. -/
def persistKeys (awaits : Awaits) (keys : List VaultKeyEntry) (vault : Vault) :
    Except String Unit × Vault :=
  match vault.browser.sessionKey with
  | none => (.error "Vault is locked", vault)
  | some key => (vault.pass awaits.encrypt).saveData awaits.saveData (encrypt key keys)

/-- The entries and the meta are written under the new key. -/
def rewrite (awaits : Awaits) (newMeta : VaultMeta) (vault : Vault) : Except String Unit × Vault :=
  match persistKeys awaits vault.browser.keys vault with
  | (.error message, vault) => (.error message, vault)
  | (.ok _, vault) => vault.saveMeta awaits.saveMeta newMeta

/-- The old session key, data and meta are restored. Failures are ignored. -/
def rollback (awaits : Awaits) (oldKey : CryptoKey) (oldData : Option VaultData)
    (oldMeta : VaultMeta) (vault : Vault) : Vault :=
  let vault := vault.setSessionKey oldKey
  let vault := match oldData with
    | none => vault
    | some data => (vault.saveData awaits.restoreData data).2
  (vault.saveMeta awaits.restoreMeta oldMeta).2

/-- `changeMasterPassword`. -/
def changeMasterPassword (awaits : Awaits) (currentPassword newPassword : String)
    (vault : Vault) : Vault :=
  match vault.starting.load awaits.loadMeta Storage.vaultMeta with
  | (.error message, vault) => vault.failed message
  | (.ok none, vault) => vault.failed "No vault found"
  | (.ok (some oldMeta), vault) =>
    if vault.browser.status ≠ .unlocked then vault.failed "Vault is locked"
    else match vault.browser.sessionKey with
    | none => vault.failed "Session key missing while vault is unlocked"
    | some oldKey =>
      let vault := vault.pass awaits.verifyPassword
      if verifyPassword currentPassword oldMeta = none then
        vault.failed "Current password is incorrect"
      else
        let (newMeta, newKey) := createVaultMeta newPassword awaits.salt
        let vault := vault.pass awaits.createVaultMeta
        if vault.browser.status ≠ .unlocked then vault.failed "Vault locked during password change"
        else match vault.load awaits.loadData Storage.data with
        | (.error message, vault) => vault.failed message
        | (.ok oldData, vault) =>
          match rewrite awaits newMeta (vault.setSessionKey newKey) with
          | (.ok _, vault) => vault.succeeded
          | (.error message, vault) => (rollback awaits oldKey oldData oldMeta vault).failed message

/-! ## Awaits -/

section Awaits

variable {vault : Vault} {moment : Moment}

@[simp]
theorem pass_storage (vault : Vault) (moment : Moment) :
    (vault.pass moment).storage = vault.storage := rfl

/-- A vault that is unlocked after an await was not locked during it. -/
theorem pass_unlocked (unlocked : (vault.pass moment).browser.status = .unlocked) :
    vault.pass moment = vault := by
  have still : ∀ (interruptions : List Interruption) (browser : Browser),
      (interruptions.foldl Browser.interrupt browser).status = .unlocked →
        interruptions.foldl Browser.interrupt browser = browser := by
    intro interruptions
    induction interruptions with
    | nil => exact fun _ _ => rfl
    | cons first rest ih =>
      intro browser after
      have before := ih (browser.interrupt first) after
      rw [List.foldl_cons, before] at after ⊢
      cases first with
      | lock => cases after
      | idle =>
        change (browser.onIdle).status = _ at after
        unfold Browser.interrupt Browser.onIdle at *
        split at after
        · rw [if_pos ‹_›]
        · cases after
  unfold Vault.pass
  rw [still moment.interruptions vault.browser unlocked]

/-- An interruption reports no error. -/
theorem pass_error (quiet : vault.browser.error = none) :
    (vault.pass moment).browser.error = none := by
  have still : ∀ (interruptions : List Interruption) (browser : Browser), browser.error = none →
      (interruptions.foldl Browser.interrupt browser).error = none := by
    intro interruptions
    induction interruptions with
    | nil => exact fun _ quiet => quiet
    | cons first rest ih =>
      intro browser quiet
      apply ih
      cases first with
      | lock => rfl
      | idle =>
        change (browser.onIdle).error = none
        unfold Browser.onIdle
        split
        · exact quiet
        · rfl
  exact still _ _ quiet

/-- A write that does not fail is made. -/
theorem save_calm {write : Storage → Storage} (calm : moment.failure = none) :
    vault.save moment write =
      (.ok (), { vault with storage := write vault.storage }.pass moment) := by
  simp only [Vault.save, calm]

/-- A write that returns without an error was made. -/
theorem save_ok {write : Storage → Storage} {result : Unit} {after : Vault}
    (saved : vault.save moment write = (.ok result, after)) :
    after = { vault with storage := write vault.storage }.pass moment := by
  unfold Vault.save at saved
  cases failure : moment.failure with
  | none =>
    rw [failure] at saved
    exact (Prod.mk.inj saved).2.symm
  | some failed =>
    rw [failure] at saved
    cases (Prod.mk.inj saved).1

end Awaits

/-! ## The change of the password -/

section Change

variable {awaits : Awaits} {vault after : Vault} {newMeta oldMeta : VaultMeta} {key : CryptoKey}
  {oldPassword newPassword message : String} {keys : List VaultKeyEntry}

/-- How a change has to end: the keys are there, under the new password if no error was reported
and under the old one otherwise. -/
def Kept (after : Vault) (oldPassword newPassword : String) (keys : List VaultKeyEntry) : Prop :=
  (after.browser.error = none → after.storage.Holds newPassword keys) ∧
    (after.browser.error ≠ none → after.storage.Holds oldPassword keys)

theorem Kept.of_failed (holds : vault.storage.Holds oldPassword keys) (message : String) :
    Kept (vault.failed message) oldPassword newPassword keys :=
  ⟨nofun, fun _ => holds⟩

/-- A rewrite that succeeds leaves the entries and the meta under the new key. -/
theorem rewrite_ok (session : vault.browser.sessionKey = some key)
    (quiet : vault.browser.error = none) {result : Unit}
    (done : rewrite awaits newMeta vault = (.ok result, after)) :
    after.storage = ⟨some newMeta, some (encrypt key vault.browser.keys)⟩ ∧
      after.browser.error = none := by
  unfold rewrite persistKeys at done
  rw [session] at done
  split at done
  · cases (Prod.mk.inj done).1
  · rename_i stored saved
    rw [save_ok done, save_ok saved]
    exact ⟨rfl, pass_error (pass_error (pass_error quiet))⟩

/-- A rewrite whose writes do not fail succeeds. -/
theorem rewrite_calm (newMeta : VaultMeta) (session : vault.browser.sessionKey = some key)
    (data : awaits.saveData.failure = none) (stored : awaits.saveMeta.failure = none) :
    (rewrite awaits newMeta vault).1 = .ok () := by
  simp only [rewrite, persistKeys, session, Vault.saveData, Vault.saveMeta, save_calm data,
    save_calm stored]

/-- A rollback restores what there was. -/
theorem rollback_storage (data : awaits.restoreData.failure = none)
    (stored : awaits.restoreMeta.failure = none) (box : VaultData) :
    (rollback awaits key (some box) oldMeta vault).storage = ⟨some oldMeta, some box⟩ := by
  simp only [rollback, Vault.saveData, Vault.saveMeta, save_calm data, save_calm stored,
    pass_storage, Vault.setSessionKey]

/-- The vault is not locked while the old data is awaited, and a vault without data is written
without a failure. -/
def Undisturbed (awaits : Awaits) (vault : Vault) : Prop :=
  awaits.loadData.interruptions = [] ∧
    (vault.storage.data = none → awaits.saveData.failure = none ∧ awaits.saveMeta.failure = none)

/-- The end of a change that found the vault unlocked and its entries in the browser. -/
theorem rewritten_kept (holds : vault.storage.Holds oldPassword keys)
    (present : vault.storage.vaultMeta = some oldMeta) (listed : vault.browser.keys = keys)
    (restores : awaits.restoreData.failure = none ∧ awaits.restoreMeta.failure = none)
    (empty : vault.storage.data = none →
      awaits.saveData.failure = none ∧ awaits.saveMeta.failure = none) (oldKey : CryptoKey) :
    Kept (match rewrite awaits (createVaultMeta newPassword awaits.salt).1
        (vault.starting.setSessionKey (createVaultMeta newPassword awaits.salt).2) with
      | (.ok _, after) => after.succeeded
      | (.error message, after) =>
        (rollback awaits oldKey vault.storage.data oldMeta after).failed message)
      oldPassword newPassword keys := by
  split
  · rename_i after done
    obtain ⟨stored, quiet⟩ := rewrite_ok rfl rfl done
    have opens : after.succeeded.storage.Holds newPassword keys := by
      refine ⟨_, congrArg Storage.vaultMeta stored, ?_⟩
      rw [show after.succeeded.storage.data = _ from congrArg Storage.data stored, ← listed]
      exact if_pos rfl
    exact ⟨fun _ => opens, fun reported => absurd quiet reported⟩
  · rename_i message after undone
    cases data : vault.storage.data with
    | none =>
      obtain ⟨dataCalm, metaCalm⟩ := empty data
      have session : (vault.starting.setSessionKey
          (createVaultMeta newPassword awaits.salt).2).browser.sessionKey = some _ := rfl
      have done := rewrite_calm (createVaultMeta newPassword awaits.salt).1 session dataCalm
        metaCalm
      rw [undone] at done
      cases done
    | some box =>
      apply Kept.of_failed
      rw [rollback_storage restores.1 restores.2]
      obtain ⟨stored, same, opens⟩ := holds
      cases present.symm.trans same
      exact ⟨oldMeta, rfl, data ▸ opens⟩

/-- A change of the password never loses keys, if the vault is not locked while the old data is
awaited. Nothing is written before the old data was read, and what is written then has the keys that
were shown. -/
theorem password_change_keeps_keys (awaits : Awaits)
    (currentPassword oldPassword newPassword : String) (vault : Vault) (keys : List VaultKeyEntry) (holds : vault.storage.Holds oldPassword keys)
    (shown : vault.browser.status = .unlocked → vault.browser.keys = keys)
    (restores : awaits.restoreData.failure = none ∧ awaits.restoreMeta.failure = none)
    (undisturbed : Undisturbed awaits vault) :
    let after := changeMasterPassword awaits currentPassword newPassword vault
    (after.browser.error = none → after.storage.Holds newPassword keys) ∧
      (after.browser.error ≠ none → after.storage.Holds oldPassword keys) := by
  unfold changeMasterPassword Vault.load
  cases awaits.loadMeta.failure with
  | some failure => exact Kept.of_failed holds _
  | none =>
    obtain ⟨oldMeta, present, opens⟩ := holds
    have holds : vault.storage.Holds oldPassword keys := ⟨oldMeta, present, opens⟩
    simp only [show vault.starting.storage.vaultMeta = some oldMeta from present]
    split
    · exact Kept.of_failed holds _
    rename_i unlocked
    have entered := pass_unlocked (not_not.mp unlocked)
    rw [entered] at unlocked ⊢
    have listed : vault.browser.keys = keys := shown (not_not.mp unlocked)
    split
    · exact Kept.of_failed holds _
    rename_i oldKey _
    split
    · exact Kept.of_failed holds _
    split
    · exact Kept.of_failed holds _
    rename_i later
    have created := pass_unlocked (not_not.mp later)
    rw [created] at later ⊢
    have verified := pass_unlocked (not_not.mp later)
    rw [verified]
    cases awaits.loadData.failure with
    | some failure => exact Kept.of_failed holds _
    | none =>
      -- nothing has locked the vault so far, and nothing does while the old data is awaited
      have loaded : vault.starting.pass awaits.loadData = vault.starting := by
        rw [Vault.pass, undisturbed.1]
        rfl
      simp only [loaded]
      exact rewritten_kept holds present listed restores undisturbed.2 oldKey

end Change

/-! ## Runs -/

/-- An await at which nothing happens. -/
def still : Moment := ⟨none, []⟩

/-- A change in which nothing happens. -/
def calmly : Awaits := ⟨still, still, still, still, still, still, still, still, still, "pepper"⟩

/-- A deploy key. -/
def deployKey : VaultKeyEntry := ⟨"1", "deploy", "PEM", false, "aa:bb", none, "today", "today"⟩

/-- An unlocked vault with one entry. -/
def deployVault : Vault :=
  ⟨⟨some (createVaultMeta "old" "salt").1, some (encrypt ⟨"old", "salt"⟩ [deployKey])⟩,
    ⟨.unlocked, [deployKey], some ⟨"old", "salt"⟩, false, none, 0⟩⟩

/-- The vault is locked while the new data is written, and the write of the meta fails. The entry is
there under the old password. -/
theorem password_change_keeps_deploy_key :
    let awaits := { calmly with
      saveData := ⟨none, [.lock]⟩, saveMeta := ⟨some ⟨"Failed to save the vault", true⟩, []⟩ }
    let after := changeMasterPassword awaits "old" "new" deployVault
    after.browser.error = some "Failed to save the vault" ∧
      (after.browser.error ≠ none → after.storage.Holds "old" [deployKey]) :=
  ⟨by decide +kernel, (password_change_keeps_keys
    { calmly with
      saveData := ⟨none, [.lock]⟩, saveMeta := ⟨some ⟨"Failed to save the vault", true⟩, []⟩ }
    "old" "old" "new" deployVault [deployKey] ⟨_, rfl, rfl⟩ (fun _ => rfl) ⟨rfl, rfl⟩
    ⟨rfl, nofun⟩).2⟩

/-- The vault is locked while the old data is awaited. The change ends without an error, and the
entry is lost. -/
theorem password_change_loses_keys :
    let awaits := { calmly with loadData := ⟨none, [.idle]⟩ }
    let after := changeMasterPassword awaits "old" "new" deployVault
    deployVault.storage.Holds "old" [deployKey] ∧ deployVault.browser.keys = [deployKey] ∧
      after.browser.error = none ∧
        after.storage.vaultMeta = some (createVaultMeta "new" "pepper").1 ∧
          readKeys ⟨"new", "pepper"⟩ after.storage.data = some [] :=
  ⟨⟨_, rfl, rfl⟩, rfl, by decide +kernel, by decide +kernel, by decide +kernel⟩

end ShellHub.Vaults
