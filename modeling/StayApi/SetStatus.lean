import StayApi.ControlPoints
import StayApi.TtlKey

/-!
# A `setStatus` that fails

`setStatus` writes the hash first and the TTL key second, and neither it nor its
callers take the first back when the second fails.
-/

namespace StayApi

open UserStatusMessage

namespace Redis

def online (R : Redis) (uid : String) : Bool := ((R.hashes USER_STATUS_HASH_KEY).get uid).isSome

def leased (R : Redis) (uid : String) : Bool := (R.expiring.get (ttlKey uid)).isSome

def AllLeased (R : Redis) : Prop := ∀ uid, R.online uid = true → R.leased uid = true

end Redis

abbrev Outcomes : Type := List (Outcome JsError)

/-- The `hSet` is carried out, whatever is answered. -/
def hSetDone : Outcomes → Bool
  | .rejected carriedOut _ :: _ => carriedOut
  | _ => true

/-- The `set` of the TTL key is issued and carried out. -/
def setDone : Outcomes → Bool
  | .rejected _ _ :: _ => false
  | _ :: .rejected carriedOut _ :: _ => carriedOut
  | _ => true

/-- `setStatus` on its own: what it throws is left unhandled. -/
def setStatusProgram (uid : String) : Program :=
  UserStatusService.setStatus uid ONLINE (fun _ => .done) .rejected

/-- The programs that run `setStatus uid`, first of all their commands. -/
inductive SetsStatus (uid : String) (s : Server) : Program → Prop
  | call : SetsStatus uid s (setStatusProgram uid)
  | subscribe (client : WebSocket) (reset : Option Json) :
    SetsStatus uid s (subscribeMessage client (some uid) reset).detached
  | pong (client : WebSocket) {t : TrackedClient} (ht : s.clients.get client = some t) (hu : t.userUid = some uid) :
    SetsStatus uid s (pong client).detached

section
variable {users : Users} {uid : String} {s : Server} {R : Redis} {os : Outcomes} {e : JsError} {carriedOut : Bool}

def Redis.withOnline (R : Redis) (uid : String) : Redis := (R.hSet USER_STATUS_HASH_KEY uid ONLINE.text).1

theorem withOnline_online (v : String) : (R.withOnline uid).online v = true ↔ v = uid ∨ R.online v = true := by
  unfold Redis.withOnline Redis.hSet Redis.online
  simp only [Redis.setHash_self]
  by_cases hv : v = uid
  · rw [hv, OrdMap.get_set_self]
    simp
  · rw [OrdMap.get_set_ne _ hv]
    simp [hv]

theorem withOnline_leased (v : String) : (R.withOnline uid).leased v = R.leased v := rfl

theorem set_leased (v : String) :
    (R.set (ttlKey uid) ONLINE.text TTL_EXPIRATION_TIME).leased v = true ↔ v = uid ∨ R.leased v = true := by
  unfold Redis.set Redis.leased
  by_cases hv : v = uid
  · rw [hv, OrdMap.get_set_self]
    simp
  · have hk : ttlKey v ≠ ttlKey uid := fun h => hv (ttlKey_injective h)
    rw [OrdMap.get_set_ne _ hk]
    simp [hv]

theorem allLeased_withOnline (h : R.AllLeased) : (R.withOnline uid).AllLeased ↔ R.leased uid = true := by
  constructor
  · intro hall
    exact hall uid ((withOnline_online uid).mpr (.inl rfl))
  · intro hu v hv
    rw [withOnline_leased]
    rcases (withOnline_online v).mp hv with rfl | hv
    · exact hu
    · exact h v hv

theorem allLeased_both (h : R.AllLeased) :
    ((R.withOnline uid).set (ttlKey uid) ONLINE.text TTL_EXPIRATION_TIME).AllLeased := by
  intro v hv
  apply (set_leased v).mpr
  rcases (withOnline_online v).mp hv with rfl | hv
  · exact .inl rfl
  · exact .inr (h v hv)

/-! ## What a failure leaves in Redis -/

/-- A pong of a tracked user runs `setStatus` and drops what it throws. -/
theorem drive_pong {client : WebSocket} {t : TrackedClient} (ht : s.clients.get client = some t)
    (hu : t.userUid = some uid) :
    (pong client).detached.drive (serve users) os s R =
      (UserStatusService.setStatus uid ONLINE (fun _ => .done) fun _ => .done : Program).drive (serve users) os
        (markAlive client s) R := by
  simp only [pong, Async.detached, Async.bind_apply, Async.get_apply, Async.tryCatch_apply, Proc.drive, ht]
  simp only [Async.bind_apply, Async.modify_apply, Proc.drive, hu]
  rfl

/-- Its `hSet` rejected, a `setStatus` ends there. -/
theorem drive_first {p : Program} (hp : SetsStatus uid s p) :
    (p.drive (serve users) (.rejected carriedOut e :: os) s R).store = if carriedOut then R.withOnline uid else R := by
  cases hp with
  | call => rfl
  | subscribe client reset => rfl
  | pong client ht hu =>
    rw [drive_pong ht hu]
    rfl

theorem drive_second {p : Program} (hp : SetsStatus uid s p) :
    (p.drive (serve users) (.answered :: .rejected carriedOut e :: os) s R).store =
      if carriedOut then (R.withOnline uid).set (ttlKey uid) ONLINE.text TTL_EXPIRATION_TIME else R.withOnline uid := by
  cases hp with
  | call => rfl
  | subscribe client reset => rfl
  | pong client ht hu =>
    rw [drive_pong ht hu]
    rfl

theorem setStatus_throws (h : ((setStatusProgram uid).drive (serve users) os s R).unhandled ≠ []) :
    (∃ carriedOut e os', os = .rejected carriedOut e :: os') ∨
      ∃ carriedOut e os', os = .answered :: .rejected carriedOut e :: os' := by
  cases os with
  | nil => exact absurd rfl h
  | cons o os =>
    cases o with
    | rejected carriedOut e => exact .inl ⟨carriedOut, e, os, rfl⟩
    | answered =>
      cases os with
      | nil => exact absurd rfl h
      | cons o os =>
        cases o with
        | answered => exact absurd rfl h
        | rejected carriedOut e => exact .inr ⟨carriedOut, e, os, rfl⟩

end

/-- **What a failed `setStatus` leaves.** Called with every uid of the hash
leased, on its own or by a subscribe or a pong, a `setStatus` that throws leaves
every uid of the hash leased exactly if the user had a live TTL key before, or
the `hSet` was not carried out, or the `set` was. -/
theorem half_written_iff (users : Users) (uid : String) (os : Outcomes) (s : Server) (R : Redis) (p : Program)
    (hR : R.AllLeased) (hp : SetsStatus uid s p)
    (h : ((setStatusProgram uid).drive (serve users) os s R).unhandled ≠ []) :
    (p.drive (serve users) os s R).store.AllLeased ↔
      R.leased uid = true ∨ hSetDone os = false ∨ setDone os = true := by
  rcases setStatus_throws h with ⟨carriedOut, e, os, rfl⟩ | ⟨carriedOut, e, os, rfl⟩
  · rw [drive_first hp]
    cases carriedOut with
    | false => simp [hSetDone, hR]
    | true => simp [hSetDone, setDone, allLeased_withOnline hR]
  · rw [drive_second hp]
    cases carriedOut with
    | false => simp [hSetDone, setDone, allLeased_withOnline hR]
    | true => simp [setDone, allLeased_both hR]

theorem half_written_iff_leased :
    (((setStatusProgram "a").drive (serve everyUser) [.answered, .rejected false ⟨"timeout"⟩] Server.start
      (Redis.empty.set (ttlKey "a") "online" TTL_EXPIRATION_TIME)).store).AllLeased :=
  (half_written_iff everyUser "a" [.answered, .rejected false ⟨"timeout"⟩] Server.start
    (Redis.empty.set (ttlKey "a") "online" TTL_EXPIRATION_TIME) _ (fun _ h => by cases h) .call
    (List.cons_ne_nil _ _)).mpr (.inl (by decide))

/-- Nobody is online; the `set` of the first subscriber's TTL key is rejected. -/
theorem half_written_ghost :
    Redis.empty.AllLeased ∧
      ((setStatusProgram "a").drive (serve everyUser) [.answered, .rejected false ⟨"timeout"⟩] Server.start
        Redis.empty).unhandled ≠ [] ∧
      ¬ ((setStatusProgram "a").drive (serve everyUser) [.answered, .rejected false ⟨"timeout"⟩] Server.start
        Redis.empty).store.AllLeased := by
  refine ⟨?_, List.cons_ne_nil _ _, ?_⟩
  · intro v hv
    cases hv
  · intro h
    have hl := h "a" (by decide)
    revert hl
    decide

end StayApi
