import StayApi.ControlPoints
import StayApi.StatusMap
import StayApi.TtlKey

/-!
# Expired keys

The expiry handler on its own: an expired key names at most one uid, and the
handler touches no other.
-/

namespace StayApi

open UserStatusMessage

section
variable {users : Users} {s : Server} {R : Redis} {uid : String} {os : List (Outcome JsError)}

def expiryProgram (key : String) : Program := (handleRedisExpiration key).detached

theorem expiry_foreign {key : String} (h : startsWith key USER_STATUS_HASH_TTL_KEY = false) :
    (expiryProgram key).drive (serve users) os s R = ⟨s, R, os, []⟩ := by
  unfold expiryProgram handleRedisExpiration
  rw [h]
  rfl

/-- The handler of a key with the prefix starts with its `hDel`. -/
theorem expiry_store {key : String} (h : startsWith key USER_STATUS_HASH_TTL_KEY = true) :
    ((expiryProgram key).drive (serve users) [] s R).store =
      (R.hDel USER_STATUS_HASH_KEY (uidOfKey key)).1 := by
  unfold expiryProgram handleRedisExpiration
  rw [if_pos h]
  simp only [Async.detached, Async.bind_apply, UserStatusService.delStatus, command, Async.await, Proc.drive,
    List.headD_nil, Outcome.settle, serve, Async.settle_ok]
  split
  · rfl
  · rfl

theorem expiry_get (hu : ':' ∉ uid.toList) (v : String) :
    (((expiryProgram (ttlKey uid)).drive (serve users) [] s R).store.hashes USER_STATUS_HASH_KEY).get v =
      if v = uid then none else (R.hashes USER_STATUS_HASH_KEY).get v := by
  rw [expiry_store (startsWith_ttlKey uid), uidOfKey_ttlKey hu]
  unfold Redis.hDel
  rw [Redis.setHash_self, OrdMap.get_delete]

end

/-- **An expired key names its uid.** `setStatus uid` writes the key `ttlKey uid`;
its expiry removes the field of `uid`, if that has no colon, and no other; keys
of different uids differ; and another program's key changes and sends nothing. -/
theorem expiry_names_uid (users : Users) :
    (∀ uid status R, (storeAfter users (UserStatusService.setStatus uid status) R).expiring =
      R.expiring.set (ttlKey uid) (status.text, TTL_EXPIRATION_TIME)) ∧
    (∀ uid : String, ':' ∉ uid.toList → ∀ s R v,
      (((expiryProgram (ttlKey uid)).drive (serve users) [] s R).store.hashes USER_STATUS_HASH_KEY).get v =
        if v = uid then none else (R.hashes USER_STATUS_HASH_KEY).get v) ∧
    (∀ u v, u ≠ v → ttlKey u ≠ ttlKey v) ∧
    ∀ key, startsWith key USER_STATUS_HASH_TTL_KEY = false → ∀ os s R,
      (expiryProgram key).drive (serve users) os s R = ⟨s, R, os, []⟩ :=
  ⟨fun _ _ _ => rfl, fun _ hu _ _ v => expiry_get hu v, fun _ _ hne h => hne (ttlKey_injective h),
    fun _ hk _ _ _ => expiry_foreign hk⟩

theorem expiry_names_uid_two :
    ttlKey "a" ≠ ttlKey "b" ∧
    (((expiryProgram (ttlKey "a")).drive (serve everyUser) [] Server.start
      ((Redis.empty.hSet USER_STATUS_HASH_KEY "a" "online").1.hSet USER_STATUS_HASH_KEY "b" "online").1).store.hashes
        USER_STATUS_HASH_KEY).get "b" = some "online" :=
  ⟨(expiry_names_uid everyUser).2.2.1 "a" "b" (by decide),
    ((expiry_names_uid everyUser).2.1 "a" (by decide) _ _ "b").trans (by decide)⟩

end StayApi
