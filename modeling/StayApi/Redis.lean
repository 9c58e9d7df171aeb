import StayApi.Json
import StayApi.OrdMap

/-!
# Redis and the users table

The commands the presence code awaits, and how Redis and PostgreSQL answer
them. Single commands are atomic.
-/

namespace StayApi

inductive Command where
  | hSet (key field value : String)
  | set (key value : String) (EX : Nat)
  | hDel (key field : String)
  | hGet (key field : String)
  | hmGet (key : String) (fields : List String)
  | hGetAll (key : String)
  /-- `pool.exists` of the row of `public.users` with this id. -/
  | poolExists (id : String)

@[reducible] def Reply : Command → Type
  | .hSet .. => Nat
  | .set .. => Unit
  | .hDel .. => Nat
  | .hGet .. => Option String
  | .hmGet .. => List (Option String)
  | .hGetAll _ => OrdMap String String
  | .poolExists _ => Option Bool

/-- Whether the command goes to Redis, whose one connection answers in order. -/
def Command.toRedis : Command → Bool
  | .poolExists _ => false
  | _ => true

/-- The key that a command takes for a hash. -/
def Command.hashKey : Command → Option String
  | .hSet key _ _ => some key
  | .hDel key _ => some key
  | .hGet key _ => some key
  | .hmGet key _ => some key
  | .hGetAll key => some key
  | _ => none

/-- The hashes, and the string keys that were set with an expiry: the value and
the seconds given with it. Keys of the two kinds are kept apart, as the program
uses no key in both ways. -/
structure Redis where
  hashes : String → OrdMap String String
  expiring : OrdMap String (String × Nat)

namespace Redis

def empty : Redis := ⟨fun _ => .empty, .empty⟩

def setHash (R : Redis) (key : String) (h : OrdMap String String) : Redis :=
  { R with hashes := fun k => if k = key then h else R.hashes k }

@[simp] theorem setHash_self (R : Redis) (key : String) (h : OrdMap String String) :
    (R.setHash key h).hashes key = h := by
  simp [setHash]

@[simp] theorem setHash_expiring (R : Redis) (key : String) (h : OrdMap String String) :
    (R.setHash key h).expiring = R.expiring := rfl

/-- `HSET` answers the number of fields it added. -/
def hSet (R : Redis) (key field value : String) : Redis × Nat :=
  (R.setHash key ((R.hashes key).set field value), if ((R.hashes key).get field).isSome then 0 else 1)

/-- `HDEL` answers the number of fields it removed. -/
def hDel (R : Redis) (key field : String) : Redis × Nat :=
  (R.setHash key ((R.hashes key).delete field), if ((R.hashes key).get field).isSome then 1 else 0)

def set (R : Redis) (key value : String) (EX : Nat) : Redis :=
  { R with expiring := R.expiring.set key (value, EX) }

def expire (R : Redis) (key : String) : Redis :=
  { R with expiring := R.expiring.delete key }

end Redis

/-- What `pool.exists` answers for an id: a Boolean, or the rejection of a text
that is no uuid. The code also handles an answer that is null. -/
abbrev Users : Type := String → Except JsError (Option Bool)

/-- How a command that does not fail is carried out. -/
def serve (users : Users) : (c : Command) → Redis → Redis × Except JsError (Reply c)
  | .hSet key field value, R => ((R.hSet key field value).1, .ok (R.hSet key field value).2)
  | .set key value EX, R => (R.set key value EX, .ok ())
  | .hDel key field, R => ((R.hDel key field).1, .ok (R.hDel key field).2)
  | .hGet key field, R => (R, .ok ((R.hashes key).get field))
  | .hmGet key fields, R => (R, .ok (fields.map (R.hashes key).get))
  | .hGetAll key, R => (R, .ok (R.hashes key))
  | .poolExists id, R => (R, users id)

end StayApi
