import StayApi.UserStatusService

/-!
# One key space

In Redis a key holds a hash or a string: `SET` puts a string in the place of
whatever the key held, the commands on hashes fail on a string, and a hash that has
lost its last field is gone. While no key is used in both ways, the hashes and the
strings are two spaces, and a command does in them what it does in the one.
-/

namespace StayApi

inductive Value where
  | hash (fields : OrdMap String String)
  | string (value : String) (EX : Nat)

abbrev KeySpace : Type := String → Option Value

def WRONGTYPE : JsError := ⟨"WRONGTYPE Operation against a key holding the wrong kind of value"⟩

namespace KeySpace

def put (K : KeySpace) (key : String) (v : Option Value) : KeySpace := fun k => if k = key then v else K k

def ofHash (fields : OrdMap String String) : Option Value :=
  if fields.entries.isEmpty then none else some (.hash fields)

def hashAt (K : KeySpace) (key : String) : Except JsError (OrdMap String String) :=
  match K key with
  | none => .ok .empty
  | some (.hash fields) => .ok fields
  | some (.string ..) => .error WRONGTYPE

/-- A command that writes the hash at a key, and answers with a number. -/
def writeHash (K : KeySpace) (key : String) (f : OrdMap String String → OrdMap String String × Nat) :
    KeySpace × Except JsError Nat :=
  match K.hashAt key with
  | .ok fields => (K.put key (ofHash (f fields).1), .ok (f fields).2)
  | .error error => (K, .error error)

/-- How Redis, and the users table, carry out a command. -/
def execute (users : Users) : (c : Command) → KeySpace → KeySpace × Except JsError (Reply c)
  | .hSet key field value, K =>
    K.writeHash key fun fields => (fields.set field value, if (fields.get field).isSome then 0 else 1)
  | .set key value EX, K => (K.put key (some (.string value EX)), .ok ())
  | .hDel key field, K =>
    K.writeHash key fun fields => (fields.delete field, if (fields.get field).isSome then 1 else 0)
  | .hGet key field, K => (K, (K.hashAt key).map fun fields => fields.get field)
  | .hmGet key fields, K => (K, (K.hashAt key).map fun h => fields.map h.get)
  | .hGetAll key, K => (K, K.hashAt key)
  | .poolExists id, K => (K, users id)

end KeySpace

open KeySpace

namespace Redis

def keySpace (R : Redis) : KeySpace := fun key =>
  match R.expiring.get key with
  | some (value, EX) => some (.string value EX)
  | none => ofHash (R.hashes key)

/-- No key is both a hash and a string, and the keys of the program are what it takes them for. -/
structure Apart (R : Redis) : Prop where
  status : R.expiring.get USER_STATUS_HASH_KEY = none
  leases : ∀ uid, R.hashes (ttlKey uid) = .empty
  strings : ∀ key, (R.expiring.get key).isSome → R.hashes key = .empty

section
variable {R : Redis} {key : String}

theorem keySpace_string {value : String} {EX : Nat} (h : R.expiring.get key = some (value, EX)) :
    R.keySpace key = some (.string value EX) := by
  unfold keySpace
  rw [h]

theorem keySpace_hash (h : R.expiring.get key = none) : R.keySpace key = ofHash (R.hashes key) := by
  unfold keySpace
  rw [h]

theorem hashAt_keySpace (h : R.expiring.get key = none) : R.keySpace.hashAt key = .ok (R.hashes key) := by
  unfold hashAt
  rw [keySpace_hash h, ofHash]
  by_cases he : (R.hashes key).entries.isEmpty
  · have hempty : R.hashes key = .empty := OrdMap.eq_empty (List.isEmpty_iff.mp he)
    rw [if_pos he, hempty]
  · rw [if_neg he]

theorem keySpace_setHash (h : R.expiring.get key = none) (fields : OrdMap String String) :
    (R.setHash key fields).keySpace = R.keySpace.put key (ofHash fields) := by
  funext k
  unfold keySpace put
  rw [setHash_expiring]
  by_cases hk : k = key
  · rw [if_pos hk, hk, h, setHash_self]
  · rw [if_neg hk]
    simp [setHash, hk]

theorem keySpace_set (value : String) (EX : Nat) :
    (R.set key value EX).keySpace = R.keySpace.put key (some (.string value EX)) := by
  funext k
  unfold keySpace put set
  by_cases hk : k = key
  · simp [hk]
  · simp [hk]

theorem keySpace_expire (h : R.hashes key = .empty) : (R.expire key).keySpace = R.keySpace.put key none := by
  funext k
  unfold keySpace put expire
  by_cases hk : k = key
  · simp [hk, h, ofHash, OrdMap.empty]
  · simp [hk]

theorem writeHash_keySpace (h : R.expiring.get key = none) (f : OrdMap String String → OrdMap String String × Nat) :
    R.keySpace.writeHash key f =
      ((R.setHash key (f (R.hashes key)).1).keySpace, .ok (f (R.hashes key)).2) := by
  unfold writeHash
  rw [hashAt_keySpace h, keySpace_setHash h]

end

end Redis

/-- A command on the hash or on a TTL key does in the two spaces what it does in the one. -/
theorem execute_keySpace {users : Users} {R : Redis} (c : Command)
    (hc : ∀ key, c.hashKey = some key → R.expiring.get key = none) :
    execute users c R.keySpace = ((serve users c R).1.keySpace, (serve users c R).2) := by
  cases c with
  | hSet key field value => exact Redis.writeHash_keySpace (hc key rfl) _
  | set key value EX => exact congrArg (fun K => (K, Except.ok ())) (Redis.keySpace_set value EX).symm
  | hDel key field => exact Redis.writeHash_keySpace (hc key rfl) _
  | hGet key field =>
    have hk := Redis.hashAt_keySpace (hc key rfl)
    simp [execute, serve, hk, Except.map]
  | hmGet key fields =>
    have hk := Redis.hashAt_keySpace (hc key rfl)
    simp [execute, serve, hk, Except.map]
  | hGetAll key =>
    have hk := Redis.hashAt_keySpace (hc key rfl)
    simp [execute, serve, hk]
  | poolExists id => rfl

end StayApi
