import Mathlib.Data.Rat.Defs
import ZModel.Lib.Threads
import ZModel.Store.Quota

/-!
# Requests that write a user row

The writers of `model/user.go`. A charge changes the quota in place, a transfer locks the row, and a
registration and every account edit write back a row that they have read.
-/

namespace ZModel.Users

open Lib
open Store (Write)

inductive TextColumn where
  | username | password | displayName | email | gitHubId | discordId | oidcId | weChatId
  | telegramId | accessToken | group | affCode | linuxDOId | setting | remark | stripeCustomer
  deriving DecidableEq

inductive NumberColumn where
  | role | status | quota | usedQuota | requestCount | affCount | affQuota | affHistoryQuota
  | inviterId | createdAt | lastLoginAt
  deriving DecidableEq

structure User where
  id : Nat
  text : TextColumn → String := fun _ => ""
  number : NumberColumn → Int := fun _ => 0

variable (u : User)

namespace User

def setText (c : TextColumn) (value : String) : User :=
  { u with text := fun d => if d = c then value else u.text d }

def setNumber (c : NumberColumn) (value : Int) : User :=
  { u with number := fun d => if d = c then value else u.number d }

def add (c : NumberColumn) (δ : Int) : User := u.setNumber c (u.number c + δ)

def quota (u : User) : Int := u.number .quota

def affQuota (u : User) : Int := u.number .affQuota

def omitted : NumberColumn → Bool
  | .quota | .usedQuota | .requestCount => true
  | _ => false

def updates (row new : User) : User where
  id := row.id
  text c := if new.text c = "" then row.text c else new.text c
  number c := if omitted c = true ∨ new.number c = 0 then row.number c else new.number c

end User

instance : Keyed User Nat := ⟨User.id⟩

@[simp] theorem key_user : key u = u.id := rfl

structure Movement where
  user : Nat
  quota : Int
  affQuota : Int

structure Db where
  users : Table User
  movements : List Movement := []

structure World where
  write : Write := .done
  newId : Nat := 0

/-- The statements. `TransferAffQuotaToQuota` holds the lock of its row throughout, so it is one
operation. -/
inductive Op where
  | first (id : Nat)
  | firstByUsername (username : String)
  | accessTokenTaken (id : Nat) (key : String)
  | emailTaken (email : String) (excludeUserID : Nat)
  | create (u : User)
  | addQuota (id : Nat) (δ : Int)
  | transferAffQuotaToQuota (id : Nat) (quota : Int)
  | updates (u : User)
  | save (u : User) (reward : Int)

abbrev Op.Ret : Op → Type
  | .first _ | .firstByUsername _ => Option User
  | .create _ => Option Nat
  | .emailTaken _ _ => Option Bool
  | _ => Bool

def exec (_node : Nat) : (o : Op) → World → Db → o.Ret × Db
  | .first id, w, db =>
    match w.write with
    | .fails => (none, db)
    | .done => (db.users.find? id, db)
  | .firstByUsername username, w, db =>
    match w.write with
    | .fails => (none, db)
    | .done => (db.users.rows.find? fun u => u.text .username = username, db)
  | .accessTokenTaken id key, w, db =>
    match w.write with
    | .fails => (false, db)
    | .done => ((db.users.find? id).any fun u => u.text .accessToken = key, db)
  | .emailTaken email excludeUserID, w, db =>
    match w.write with
    | .fails => (none, db)
    | .done => (some (email ≠ "" && db.users.rows.any fun u =>
      u.text .email = email && u.id ≠ excludeUserID), db)
  | .create u, w, db =>
    match w.write, db.users.create { u with id := w.newId } with
    | .done, some users =>
      (some w.newId, ⟨users, ⟨w.newId, u.quota, u.affQuota⟩ :: db.movements⟩)
    | _, _ => (none, db)
  | .addQuota id δ, w, db =>
    match w.write, db.users.find? id with
    | .done, some u => (true, ⟨db.users.put (u.add .quota δ), ⟨id, δ, 0⟩ :: db.movements⟩)
    | .done, none => (true, db)
    | .fails, _ => (false, db)
  | .transferAffQuotaToQuota id quota, w, db =>
    match w.write, db.users.find? id with
    | .done, some u =>
      if u.affQuota < quota then (false, db)
      else (true, ⟨db.users.put ((u.add .affQuota (-quota)).add .quota quota),
        ⟨id, quota, -quota⟩ :: db.movements⟩)
    | _, _ => (false, db)
  | .updates u, w, db =>
    match w.write, db.users.find? u.id with
    | .done, some row => (true, { db with users := db.users.put (row.updates u) })
    | .done, none => (true, db)
    | .fails, _ => (false, db)
  | .save u reward, w, db =>
    match w.write, db.users.find? u.id with
    | .done, some _ => (true, ⟨db.users.put u, ⟨u.id, 0, reward⟩ :: db.movements⟩)
    | _, _ => (false, db)

def machine : Machine Op Op.Ret World Db := ⟨exec, fun _ _ _ => true, fun _ db => db⟩

structure Settings where
  quotaForNewUser : Int := 0
  quotaForInvitee : Int := 0
  quotaForInviter : Int := 0
  paymentComplianceConfirmed : Bool := true
  quotaPerUnit : ℚ := 500000
  defaultSidebarConfig : Int → String := fun _ => "{}"

inductive ManageAction where
  | disable
  | enable
  | promote
  | demote

inductive Job where
  | decreaseUserQuota (id : Nat) (quota : Int)
  | increaseUserQuota (id : Nat) (quota : Int)
  | transferAffQuota (s : Settings) (id : Nat) (quota : Int)
  | register (s : Settings) (u : User) (inviterId : Nat)
  | registerOAuth (s : Settings) (u : User) (inviterId : Nat)
  | generateAccessToken (id : Nat) (key : String)
  | getAffCode (id : Nat) (code : String)
  | emailBind (id : Nat) (email : String)
  | accountBind (id : Nat) (column : TextColumn) (providerUserID : String)
  | manageUser (myRole : Int) (id : Nat) (action : ManageAction)

abbrev Prog := Program Op Op.Ret Job

abbrev call (o : Op) : Prog o.Ret := Program.call o

variable (id : Nat)

def increaseUserQuota (quota : Int) : Prog Unit :=
  if quota < 0 then pure ()
  else do
    let _done : Bool ← call (.addQuota id quota)
    return

def decreaseUserQuota (quota : Int) : Prog Unit :=
  if quota < 0 then pure ()
  else do
    let _done : Bool ← call (.addQuota id (-quota))
    return

def transferAffQuota (s : Settings) (id : Nat) (quota : Int) : Prog Unit := do
  let user : Option User ← call (.first id)
  match user with
  | none => pure ()
  | some _ =>
    if (quota : ℚ) < s.quotaPerUnit then pure ()
    else do
      let _done : Bool ← call (.transferAffQuotaToQuota id quota)
      return

def update : Prog Unit := do
  let current : Option User ← call (.first u.id)
  match current with
  | none => pure ()
  | some _ => do
    let done : Bool ← call (.updates u)
    if done then do
      let _user : Option User ← call (.first u.id)
      return
    else pure ()

def inviteUser (s : Settings) (inviterId : Nat) (grantReward : Bool) : Prog Unit := do
  let user : Option User ← call (.first inviterId)
  match user with
  | none => pure ()
  | some u =>
    let reward := if grantReward then s.quotaForInviter else 0
    let _done : Bool ← call (.save
      (((u.add .affCount 1).add .affQuota reward).add .affHistoryQuota reward) reward)
    return

def finishInsert (s : Settings) (createdUser : Prog (Option User)) (id inviterId : Nat) :
    Prog Unit := do
  let created ← createdUser
  match created with
  | none => pure ()
  | some u =>
    let config := s.defaultSidebarConfig (u.number .role)
    if config = "" then pure () else update (u.setText .setting config)
  if inviterId = 0 then pure ()
  else do
    if s.paymentComplianceConfirmed ∧ 0 < s.quotaForInvitee then
      increaseUserQuota id s.quotaForInvitee
    else pure ()
    inviteUser s inviterId (s.paymentComplianceConfirmed && 0 < s.quotaForInviter)

section

variable (s : Settings) (u : User) (inviterId : Nat)

def insertUser : Prog (Option Nat) := do
  let taken : Option Bool ← call (.emailTaken (u.text .email) 0)
  if taken = some false then
    call (.create ((u.setNumber .quota s.quotaForNewUser).setNumber .inviterId inviterId))
  else return none

def insert : Prog Unit := do
  let id ← insertUser s u inviterId
  match id with
  | none => pure ()
  | some id => finishInsert s (call (.firstByUsername (u.text .username))) id inviterId

def insertOAuth : Prog Unit := do
  let id ← insertUser s u inviterId
  match id with
  | none => pure ()
  | some id => finishInsert s (call (.first id)) id inviterId

end

def editUser (edit : User → Option User) : Prog Unit := do
  let user : Option User ← call (.first id)
  match user.bind edit with
  | none => pure ()
  | some u => update u

def generateAccessToken (key : String) : Prog Unit := do
  let user : Option User ← call (.first id)
  match user with
  | none => pure ()
  | some u => do
    let taken : Bool ← call (.accessTokenTaken id key)
    if taken then pure () else update (u.setText .accessToken key)

def getAffCode (code : String) : Prog Unit :=
  editUser id fun u => if u.text .affCode = "" then some (u.setText .affCode code) else none

def emailBind (email : String) : Prog Unit := do
  let user : Option User ← call (.first id)
  match user with
  | none => pure ()
  | some u => do
    let taken : Option Bool ← call (.emailTaken email id)
    if taken = some false then update (u.setText .email email) else pure ()

def accountBind (column : TextColumn) (providerUserID : String) : Prog Unit :=
  editUser id fun u => some (u.setText column providerUserID)

def roleCommonUser : Int := 1
def roleAdminUser : Int := 10
def roleRootUser : Int := 100

def ManageAction.apply (myRole : Int) (action : ManageAction) (u : User) : Option User :=
  let role := u.number .role
  if myRole ≠ roleRootUser ∧ myRole ≤ role then none
  else match action with
    | .disable => if role = roleRootUser then none else some (u.setNumber .status 2)
    | .enable => some (u.setNumber .status 1)
    | .promote =>
      if myRole ≠ roleRootUser ∨ roleAdminUser ≤ role then none
      else some (u.setNumber .role roleAdminUser)
    | .demote =>
      if role = roleRootUser ∨ role = roleCommonUser then none
      else some (u.setNumber .role roleCommonUser)

def manageUser (myRole : Int) (id : Nat) (action : ManageAction) : Prog Unit :=
  editUser id (action.apply myRole)

def program : Job → Prog Unit
  | .decreaseUserQuota id quota => decreaseUserQuota id quota
  | .increaseUserQuota id quota => increaseUserQuota id quota
  | .transferAffQuota s id quota => transferAffQuota s id quota
  | .register s u inviterId => insert s u inviterId
  | .registerOAuth s u inviterId => insertOAuth s u inviterId
  | .generateAccessToken id key => generateAccessToken id key
  | .getAffCode id code => getAffCode id code
  | .emailBind id email => emailBind id email
  | .accountBind id column providerUserID => accountBind id column providerUserID
  | .manageUser myRole id action => manageUser myRole id action

end ZModel.Users
