import StayApi.Known
import StayApi.Parties

/-!
# Several server processes on one Redis

Each process runs the presence code with its own clients. Redis publishes an
expired-event to every process at once, and each receives it when it likes.
`Fleet` is the cluster over control points; `cluster_step` says that the two run
in step, and `FleetStepped` lists what one step can do.
-/

namespace StayApi

open UserStatusMessage

/-- A server process and the expired-events it has not yet received. -/
structure Instance where
  published : List String
  process : Process Origin Server Command Reply JsError

abbrev Cluster (n : Nat) : Type := Parties n Redis Instance

inductive ClusterEvent (n : Nat) where
  | own (i : Fin n) (e : Event)
  | expire (key : String)
  | expireOther (key : String)

/-- The events of the presence system that are Redis's own. -/
def Event.fromRedis : Event → Bool
  | .expire _ => true
  | .expireOther _ => true
  | _ => false

def Instance.world (x : Redis × Instance) : World := ⟨x.1, x.2.published, x.2.process⟩

def World.toInstance (w : World) : Redis × Instance := (w.redis, ⟨w.published, w.process⟩)

def Instance.publish (key : String) (I : Instance) : Instance := { I with published := I.published ++ [key] }

namespace Cluster

variable {n : Nat}

def start (n : Nat) : Cluster n := ⟨.empty, fun _ => ⟨[], .start .start⟩⟩

def world (C : Cluster n) (i : Fin n) : World := Instance.world (C.party i)

def hash (C : Cluster n) : OrdMap String String := C.store.hashes USER_STATUS_HASH_KEY

end Cluster

def clusterStep {n : Nat} (users : Users) (C : Cluster n) : ClusterEvent n → Option (Cluster n)
  | .own i e =>
    if e.fromRedis then none
    else C.act i fun x => (step users (Instance.world x) e).map World.toInstance
  | .expire key =>
    match C.store.expiring.get key with
    | none => none
    | some _ => some (C.tell (C.store.expire key) (Instance.publish key))
  | .expireOther key =>
    if startsWith key USER_STATUS_HASH_TTL_KEY then none
    else some (C.tell C.store (Instance.publish key))

/-! ## Over control points -/

structure Member where
  published : List String
  handlers : Handlers

abbrev Fleet (n : Nat) : Type := Parties n Redis Member

def Member.mirror (x : Redis × Member) : Mirror := ⟨x.1, x.2.published, x.2.handlers⟩

def Mirror.toMember (m : Mirror) : Redis × Member := (m.redis, ⟨m.published, m.handlers⟩)

def Member.publish (key : String) (M : Member) : Member := { M with published := M.published ++ [key] }

def Member.toInstance (M : Member) : Instance := ⟨M.published, M.handlers.process⟩

namespace Fleet

variable {n : Nat}

def start (n : Nat) : Fleet n := ⟨.empty, fun _ => ⟨[], .start .start⟩⟩

def mirror (F : Fleet n) (i : Fin n) : Mirror := Member.mirror (F.party i)

def cluster (F : Fleet n) : Cluster n := F.map Member.toInstance

def hash (F : Fleet n) : OrdMap String String := F.store.hashes USER_STATUS_HASH_KEY

def step (F : Fleet n) (i : Fin n) (m : Mirror) : Fleet n := F.put i m.toMember

def publish (F : Fleet n) (R : Redis) (key : String) : Fleet n := F.tell R (Member.publish key)

end Fleet

def fleetStep {n : Nat} (users : Users) (F : Fleet n) : ClusterEvent n → Option (Fleet n)
  | .own i e =>
    if e.fromRedis then none
    else F.act i fun x => (mirrorStep users (Member.mirror x) e).map Mirror.toMember
  | .expire key =>
    match F.store.expiring.get key with
    | none => none
    | some _ => some (F.publish (F.store.expire key) key)
  | .expireOther key =>
    if startsWith key USER_STATUS_HASH_TTL_KEY then none
    else some (F.publish F.store key)

section
variable {n : Nat} {users : Users}

theorem cluster_step (F : Fleet n) (e : ClusterEvent n) :
    clusterStep users F.cluster e = (fleetStep users F e).map Fleet.cluster := by
  cases e with
  | own i e =>
    simp only [clusterStep, fleetStep]
    split
    · rfl
    · apply Parties.act_map
      intro x
      have hw : Instance.world (x.1, Member.toInstance x.2) = (Member.mirror x).world := rfl
      rw [hw, step_mirror, Option.map_map, Option.map_map]
      rfl
  | expire key =>
    simp only [clusterStep, fleetStep]
    have hs : F.cluster.store = F.store := rfl
    rw [hs]
    cases F.store.expiring.get key <;> rfl
  | expireOther key =>
    simp only [clusterStep, fleetStep]
    split <;> rfl

inductive FleetStepped (users : Users) (F : Fleet n) : ClusterEvent n → Fleet n → Prop
  | own {i : Fin n} {e : Event} {m : Mirror} (he : e.fromRedis = false)
    (hs : Stepped users (F.mirror i) e m) : FleetStepped users F (.own i e) (F.step i m)
  | expire {key : String} (hk : (F.store.expiring.get key).isSome) :
    FleetStepped users F (.expire key) (F.publish (F.store.expire key) key)
  | expireOther {key : String} (hk : startsWith key USER_STATUS_HASH_TTL_KEY = false) :
    FleetStepped users F (.expireOther key) (F.publish F.store key)

theorem fleet_cases {F F' : Fleet n} {e : ClusterEvent n} (h : fleetStep users F e = some F') :
    FleetStepped users F e F' := by
  cases e with
  | own i e =>
    simp only [fleetStep] at h
    split at h
    · cases h
    · rename_i he
      obtain ⟨x, hx, rfl⟩ := Option.map_eq_some_iff.mp h
      obtain ⟨m, hm, rfl⟩ := Option.map_eq_some_iff.mp hx
      exact .own (by simpa using he) (mirror_cases hm)
  | expire key =>
    simp only [fleetStep] at h
    cases hk : F.store.expiring.get key with
    | none =>
      rw [hk] at h
      cases h
    | some v =>
      rw [hk] at h
      cases h
      exact .expire (by simp [hk])
  | expireOther key =>
    simp only [fleetStep] at h
    split at h
    · cases h
    · rename_i hk
      cases h
      exact .expireOther (by simpa using hk)

/-! ## What one process sees of a step -/

variable {F : Fleet n}

@[simp] theorem mirror_step_self (i : Fin n) (m : Mirror) : (F.step i m).mirror i = m := by
  simp [Fleet.mirror, Fleet.step, Parties.party, Member.mirror, Mirror.toMember]

theorem mirror_step_other {i j : Fin n} (h : j ≠ i) (m : Mirror) :
    (F.step i m).mirror j = { F.mirror j with redis := m.redis } := by
  simp [Fleet.mirror, Fleet.step, Parties.party, Member.mirror, Mirror.toMember, h]

/-- What every process keeps in its own steps, and others cannot touch through
Redis, every process keeps in every step. -/
theorem fleet_each {F' : Fleet n} {e : ClusterEvent n} {P : Fin n → Mirror → Prop} (hs : FleetStepped users F e F')
    (hR : ∀ i R, P i (F.mirror i) → P i { F.mirror i with redis := R })
    (hP : ∀ i f m, Stepped users (F.mirror i) f m → e = .own i f ∨ f.fromRedis = true → m.redis = F'.store →
      P i (F.mirror i) → P i m)
    (h : ∀ i, P i (F.mirror i)) (j : Fin n) : P j (F'.mirror j) := by
  cases hs with
  | @own i f m _ hs =>
    by_cases hj : j = i
    · subst hj
      rw [mirror_step_self]
      exact hP j f m hs (.inl rfl) rfl (h j)
    · rw [mirror_step_other hj]
      exact hR j m.redis (h j)
  | @expire key hk => exact hP j (.expire key) _ (.expire hk) (.inr rfl) rfl (h j)
  | @expireOther key hk => exact hP j (.expireOther key) _ (.expireOther hk) (.inr rfl) rfl (h j)

theorem fleet_known {F' : Fleet n} {e : ClusterEvent n} (h : ∀ i, Known users (F.mirror i))
    (hs : FleetStepped users F e F') : ∀ i, Known users (F'.mirror i) := by
  cases hs with
  | @own i e m _ hs =>
    have hi : Known users m := known_step (h i) hs
    intro j
    by_cases hj : j = i
    · subst hj
      rw [mirror_step_self]
      exact hi
    · rw [mirror_step_other hj]
      exact ⟨(h j).clients, (h j).issued, (h j).replied, (h j).truthful, hi.hash⟩
  | expire hk => exact fun j => known_step (h j) (.expire hk)
  | expireOther hk => exact fun j => known_step (h j) (.expireOther hk)

end

end StayApi
