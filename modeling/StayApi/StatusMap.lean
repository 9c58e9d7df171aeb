import Mathlib.Data.List.Induction
import StayApi.Presence

/-!
# The service as a map

`UserStatusService` keeps a status for each uid: `setStatus` and `delStatus`
write it, and `getOnlineUsers`, `searchStatuses` and `getStatus` read it. Calls
run one after another leave what the last call for each uid left.
-/

namespace StayApi

section
variable {α : Type} (users : Users)

/-- What a call run on its own leaves in Redis. -/
def storeAfter (x : Async Unit Command Reply JsError α) (R : Redis) : Redis :=
  (Proc.drive (serve users) (x (fun _ => .done) .rejected) [] () R).store

/-- What a call run on its own resolves with. -/
def answerOf (x : Async (Option α) Command Reply JsError α) (R : Redis) : Option α :=
  (Proc.drive (serve users) (x (fun a => .write (fun _ => some a) .done) .rejected) [] none R).state

end

inductive StatusCall where
  | setStatus (uid : String) (status : UserStatusType)
  | delStatus (uid : String)

namespace StatusCall

def uid : StatusCall → String
  | setStatus uid _ => uid
  | delStatus uid => uid

def perform (users : Users) (R : Redis) : StatusCall → Redis
  | setStatus uid status => storeAfter users (UserStatusService.setStatus uid status) R
  | delStatus uid => storeAfter users (UserStatusService.delStatus uid) R

/-- The field the call leaves under its uid. -/
def field : StatusCall → Option String
  | setStatus _ status => some status.text
  | delStatus _ => none

end StatusCall

def performAll (users : Users) (calls : List StatusCall) : Redis := calls.foldl (StatusCall.perform users) .empty

def lastCall (uid : String) (calls : List StatusCall) : Option StatusCall :=
  (calls.filter fun c => c.uid = uid).getLast?

section
variable {users : Users} {calls : List StatusCall} {uid : String}

theorem perform_get (R : Redis) (c : StatusCall) (u : String) :
    ((c.perform users R).hashes USER_STATUS_HASH_KEY).get u =
      if u = c.uid then c.field else (R.hashes USER_STATUS_HASH_KEY).get u := by
  cases c with
  | setStatus uid status =>
    show ((R.setHash USER_STATUS_HASH_KEY ((R.hashes USER_STATUS_HASH_KEY).set uid status.text)).hashes
      USER_STATUS_HASH_KEY).get u = _
    rw [Redis.setHash_self, OrdMap.get_set]
    rfl
  | delStatus uid =>
    show ((R.setHash USER_STATUS_HASH_KEY ((R.hashes USER_STATUS_HASH_KEY).delete uid)).hashes
      USER_STATUS_HASH_KEY).get u = _
    rw [Redis.setHash_self, OrdMap.get_delete]
    rfl

theorem lastCall_append (c : StatusCall) :
    lastCall uid (calls ++ [c]) = if uid = c.uid then some c else lastCall uid calls := by
  unfold lastCall
  rw [List.filter_append]
  by_cases h : uid = c.uid
  · simp [h]
  · simp [h, Ne.symm h]

theorem performAll_get (calls : List StatusCall) :
    ((performAll users calls).hashes USER_STATUS_HASH_KEY).get uid = (lastCall uid calls).bind StatusCall.field := by
  unfold performAll
  induction calls using List.reverseRecOn with
  | nil => rfl
  | append_singleton calls c ih =>
    rw [List.foldl_append, List.foldl_cons, List.foldl_nil, perform_get, ih, lastCall_append]
    by_cases h : uid = c.uid
    · simp [h]
    · simp [h]

/-- The last call for the uid set a status, whichever. -/
def WasSet (calls : List StatusCall) (uid : String) : Prop := ∃ status, lastCall uid calls = some (.setStatus uid status)

theorem lastCall_uid {c : StatusCall} (h : lastCall uid calls = some c) : c.uid = uid := by
  have hc := List.mem_of_getLast? h
  exact of_decide_eq_true (List.mem_filter.mp hc).2

theorem field_wasSet (users : Users) :
    ((performAll users calls).hashes USER_STATUS_HASH_KEY).get uid ≠ none ↔ WasSet calls uid := by
  rw [performAll_get]
  unfold WasSet
  cases h : lastCall uid calls with
  | none => simp
  | some c =>
    have hu := lastCall_uid h
    cases c with
    | setStatus v status =>
      obtain rfl : v = uid := hu
      simp [StatusCall.field]
    | delStatus v => simp [StatusCall.field]

/-! ## The readers -/

theorem getOnlineUsers_answer (R : Redis) (hp : uid ≠ "__proto__") :
    ∃ info, answerOf users UserStatusService.getOnlineUsers R = some info ∧
      (info.get uid = some ONLINE ↔ (R.hashes USER_STATUS_HASH_KEY).get uid ≠ none) := by
  refine ⟨_, rfl, ?_⟩
  rw [OrdMap.get_fill_eq hp, OrdMap.mem_keys, Option.isSome_iff_ne_none]

theorem mem_zip_present {uids : List String} {get : String → Option String} (hu : uid ∈ uids) :
    uid ∈ (uids.zip (uids.map get)).filterMap (fun (userId, status) => status.map fun _ => userId) ↔
      get uid ≠ none := by
  rw [← List.map_prod_left_eq_zip, List.filterMap_map, List.mem_filterMap]
  constructor
  · rintro ⟨v, -, hv⟩
    obtain ⟨w, hw, rfl⟩ := Option.map_eq_some_iff.mp hv
    intro h
    cases hw.symm.trans h
  · intro h
    obtain ⟨w, hw⟩ := Option.ne_none_iff_exists'.mp h
    refine ⟨uid, hu, ?_⟩
    simp [hw]

theorem searchStatuses_answer (R : Redis) {uids : List String} (hp : uid ≠ "__proto__") (hu : uid ∈ uids) :
    ∃ info, answerOf users (UserStatusService.searchStatuses uids) R = some info ∧
      (info.get uid = some ONLINE ↔ (R.hashes USER_STATUS_HASH_KEY).get uid ≠ none) := by
  have hne : ¬ uids.length = 0 := by
    intro h
    rw [List.length_eq_zero_iff.mp h] at hu
    cases hu
  unfold UserStatusService.searchStatuses
  rw [if_neg hne]
  refine ⟨_, rfl, ?_⟩
  rw [OrdMap.get_fill_eq hp]
  exact mem_zip_present hu

theorem getStatus_answer (R : Redis) : ∃ v, answerOf users (UserStatusService.getStatus uid) R = some v ∧
    (v ≠ none ↔ (R.hashes USER_STATUS_HASH_KEY).get uid ≠ none) := by
  refine ⟨_, rfl, ?_⟩
  rw [Ne, Option.map_eq_none_iff]

end

/-- **The three readers agree with the calls.** After any calls, a uid is
reported online by each reader exactly if the last call for it was a
`setStatus`; of the uid `__proto__`, which no plain object files, this is said of
`getStatus` alone. -/
theorem readers_agree (users : Users) (calls : List StatusCall) (uids : List String) (uid : String) (hu : uid ∈ uids) :
    (uid ≠ "__proto__" → ∃ info, answerOf users UserStatusService.getOnlineUsers (performAll users calls) = some info ∧
      (info.get uid = some ONLINE ↔ WasSet calls uid)) ∧
    (uid ≠ "__proto__" →
      ∃ info, answerOf users (UserStatusService.searchStatuses uids) (performAll users calls) = some info ∧
        (info.get uid = some ONLINE ↔ WasSet calls uid)) ∧
    ∃ v, answerOf users (UserStatusService.getStatus uid) (performAll users calls) = some v ∧
      (v ≠ none ↔ WasSet calls uid) := by
  rw [← field_wasSet users]
  exact ⟨fun hp => getOnlineUsers_answer _ hp, fun hp => searchStatuses_answer _ hp hu, getStatus_answer _⟩

theorem readers_agree_set :
    ∃ info, answerOf everyUser (UserStatusService.searchStatuses ["b", "a", "b"])
        (performAll everyUser [.setStatus "b" .online, .delStatus "a", .setStatus "a" .online]) = some info ∧
      (info.get "b" = some ONLINE ↔ WasSet [.setStatus "b" .online, .delStatus "a", .setStatus "a" .online] "b") :=
  (readers_agree everyUser [.setStatus "b" .online, .delStatus "a", .setStatus "a" .online] ["b", "a", "b"] "b"
    (by decide)).2.1 (by decide)

/-- A uid whose status was set to offline is reported online by all three. -/
theorem offline_reported :
    lastCall "a" [.setStatus "a" .offline] = some (.setStatus "a" .offline) ∧
    (∃ info, answerOf everyUser UserStatusService.getOnlineUsers (performAll everyUser [.setStatus "a" .offline]) =
      some info ∧ info.get "a" = some ONLINE) ∧
    (∃ info, answerOf everyUser (UserStatusService.searchStatuses ["a"])
      (performAll everyUser [.setStatus "a" .offline]) = some info ∧ info.get "a" = some ONLINE) ∧
    answerOf everyUser (UserStatusService.getStatus "a") (performAll everyUser [.setStatus "a" .offline]) =
      some (some "a") :=
  ⟨rfl, ⟨_, rfl, rfl⟩, ⟨_, rfl, rfl⟩, rfl⟩

end StayApi
