import StayApi.Async
import StayApi.Redis

/-!
# User status service

`user-status.type.ts`, `user-status.repository.ts` and `user-status.service.ts`.
-/

namespace StayApi

inductive UserStatusType where
  | online
  | offline
  deriving DecidableEq

def UserStatusType.text : UserStatusType → String
  | .online => "online"
  | .offline => "offline"

def ONLINE : UserStatusType := .online
def OFFLINE : UserStatusType := .offline

def USER_STATUS_HASH_KEY : String := "stay:user:status"
def USER_STATUS_HASH_TTL_KEY : String := USER_STATUS_HASH_KEY ++ ":ttl:"
def TTL_EXPIRATION_TIME : Nat := 15
def PING_INTERVAL : Nat := 10000

abbrev BroadcastUserStatusInfo : Type := OrdMap String UserStatusType

def ttlKey (uid : String) : String := USER_STATUS_HASH_TTL_KEY ++ uid

section
variable {σ : Type}

def command (c : Command) : Async σ Command Reply JsError (Reply c) := Async.await c

namespace UserStatusRepository

def checkUserInfo (userId : String) : Async σ Command Reply JsError (Option Bool) :=
  tryCatch (command (.poolExists userId)) fun error => throw error

end UserStatusRepository

namespace UserStatusService

def checkUserInfo (userId : String) : Async σ Command Reply JsError (Option Bool) :=
  UserStatusRepository.checkUserInfo userId

def searchStatuses (uids : List String) : Async σ Command Reply JsError BroadcastUserStatusInfo := do
  if uids.length = 0 then
    return .empty
  let statuses : List (Option String) ← command (.hmGet USER_STATUS_HASH_KEY uids)
  return .fill ((uids.zip statuses).filterMap fun (userId, status) => status.map fun _ => userId) ONLINE

def getOnlineUsers : Async σ Command Reply JsError BroadcastUserStatusInfo := do
  let values : OrdMap String String ← command (.hGetAll USER_STATUS_HASH_KEY)
  return .fill values.keys ONLINE

def getStatus (userId : String) : Async σ Command Reply JsError (Option String) := do
  let value : Option String ← command (.hGet USER_STATUS_HASH_KEY userId)
  return value.map fun _ => userId

def setStatus (uid : String) (status : UserStatusType) :
    Async σ Command Reply JsError BroadcastUserStatusInfo := do
  let _ ← command (.hSet USER_STATUS_HASH_KEY uid status.text)
  let userKey := USER_STATUS_HASH_TTL_KEY ++ uid
  let _ ← command (.set userKey status.text TTL_EXPIRATION_TIME)
  return OrdMap.empty.set uid ONLINE

def delStatus (uid : String) : Async σ Command Reply JsError Nat :=
  command (.hDel USER_STATUS_HASH_KEY uid)

end UserStatusService

end

end StayApi
