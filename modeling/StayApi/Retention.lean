import StayApi.PublicSchema

/-!
# What deleting cannot take away

Every record of money leads to its booking and on to the guest, the property and
the host. When a user can be deleted, and that nothing names the user afterwards.
-/

namespace StayApi.PublicSchema

open Relational

section
variable {δ : Type} {db db' : List (Record δ)} {r : Record δ} {u : Value}

/-- The tables of what was paid, owed, used up and said on account of a booking. -/
def ofBooking (t : TableName) : Bool :=
  t ∈ [TableName.paymentOutbox, .payments, .hostPayouts, .couponUsage, .reviews]

theorem ofBooking_ref {t : TableName} (h : ofBooking t = true) :
    ⟨.bookingId, .bookings, .noAction⟩ ∈ (schema t).foreignKeys ∧ Column.bookingId ∈ (schema t).notNull := by
  cases t <;> first | (exact absurd h (by decide)) | decide

/-- Whatever statements are run, each such row has its booking, with dates in
order, and this its guest, its property and the property's host. -/
theorem ledger_rooted (h : Sound schema db) (ss : List (Sql δ)) (hr : r ∈ execAll schema db ss)
    (ht : ofBooking r.table = true) :
    ∃ b ∈ execAll schema db ss, b.table = .bookings ∧ r.cols .bookingId = b.cols .id ∧
      checkDates b.cols = true ∧
      (∃ guest ∈ execAll schema db ss, guest.table = .users ∧ b.cols .guestId = guest.cols .id) ∧
      ∃ p ∈ execAll schema db ss, p.table = .properties ∧ b.cols .propertyId = p.cols .id ∧
        ∃ host ∈ execAll schema db ss, host.table = .users ∧ p.cols .hostId = host.cols .id := by
  have hs := sound_execAll h ss
  obtain ⟨hfk, hn⟩ := ofBooking_ref ht
  obtain ⟨b, hb, hbt, v, hrv, hbv⟩ := sound_follow hs hr hfk hn
  have hguest : ⟨.guestId, .users, .noAction⟩ ∈ (schema b.table).foreignKeys := by rw [hbt]; decide
  have hprop : ⟨.propertyId, .properties, .noAction⟩ ∈ (schema b.table).foreignKeys := by rw [hbt]; decide
  have hbn : (schema b.table).notNull = [.id, .propertyId, .guestId, .checkInDate, .checkOutDate] := by rw [hbt]; rfl
  have hcheck : checkDates b.cols = true := by
    have hok := hs.rows b hb
    simp only [rowOk, Bool.and_eq_true] at hok
    rw [hbt] at hok
    exact hok.2
  obtain ⟨g, hg, hgt, w, hbw, hgw⟩ := sound_follow hs hb hguest (by rw [hbn]; simp)
  obtain ⟨p, hp, hpt, x, hbx, hpx⟩ := sound_follow hs hb hprop (by rw [hbn]; simp)
  have hhost : ⟨.hostId, .users, .cascade⟩ ∈ (schema p.table).foreignKeys := by rw [hpt]; decide
  obtain ⟨o, ho, hot, y, hpy, hoy⟩ := sound_follow hs hp hhost (by rw [hpt]; decide)
  exact ⟨b, hb, hbt, hrv.trans hbv.symm, hcheck, ⟨g, hg, hgt, hbw.trans hgw.symm⟩, p, hp, hpt, hbx.trans hpx.symm,
    o, ho, hot, hpy.trans hoy.symm⟩

theorem ledger_rooted_stay :
    ∃ b ∈ execAll schema stay purge, b.table = .bookings ∧
      ∃ p ∈ execAll schema stay purge, p.table = .properties ∧
        ∃ host ∈ execAll schema stay purge, host.table = .users ∧ p.cols .hostId = host.cols .id := by
  have hr : record .payments [(.id, .uuid 5), (.bookingId, .uuid 4), (.userId, .uuid 2)] ∈ execAll schema stay purge :=
    List.mem_of_getElem? (i := 4) rfl
  obtain ⟨b, hb, hbt, -, -, -, p, hp, hpt, -, o, ho, hot, hoh⟩ := ledger_rooted sound_stay purge hr rfl
  exact ⟨b, hb, hbt, p, hp, hpt, o, ho, hot, hoh⟩

/-! ## Deleting a user -/

/-- `DELETE FROM users WHERE id = u`. -/
def deleteUser (u : Value) : Sql δ := .delete .users fun r => r.cols .id = some u

/-- The value is the id of a property that `u` hosts. -/
def hosted (db : List (Record δ)) (u : Value) (v : Option Value) : Prop :=
  ∃ p ∈ db, p.table = .properties ∧ p.cols .hostId = some u ∧ v.isSome ∧ p.cols .id = v

/-- What keeps `u` from being deleted: a row that names the user, or one of the
user's properties, and does not go with either. -/
def blocks (db : List (Record δ)) (u : Value) (r : Record δ) : Prop :=
  match r.table with
  | .bookings => r.cols .guestId = some u ∨ hosted db u (r.cols .propertyId)
  | .paymentOutbox => r.cols .userId = some u
  | .payments => r.cols .userId = some u
  | .hostPayouts => r.cols .hostId = some u
  | .coupons => r.cols .createdBy = some u
  | .couponUsage => r.cols .userId = some u
  | .reviews => r.cols .reviewerId = some u ∨ r.cols .revieweeId = some u ∨ r.cols .moderatedBy = some u ∨
      hosted db u (r.cols .propertyId)
  | .conversations => r.cols .guestId = some u ∨ r.cols .hostId = some u ∨ hosted db u (r.cols .propertyId)
  | .messages => r.cols .senderId = some u
  | .adminActions => r.cols .adminId = some u
  | .userRoles => r.cols .grantedBy = some u ∧ r.cols .userId ≠ some u
  | .properties => r.cols .approvedBy = some u ∧ r.cols .hostId ≠ some u
  | _ => False

def withUser (u : Value) (db : List (Record δ)) : List (TableName × Value) × List (Record δ) :=
  swept schema .users (fun r => r.cols .id = some u) db

theorem id_of_table {t : TableName} {i : TableName × Value} (ht : r.table = t) (hk : (schema t).key = .id)
    (hi : r.id schema = some i) : i.1 = t ∧ r.cols .id = some i.2 := by
  obtain ⟨h1, h2⟩ := id_eq_some.mp hi
  rw [ht, hk] at h2
  exact ⟨h1.symm.trans ht, h2⟩

/-- Of the rows that go with a user, others refer to the user and to the properties. -/
theorem withUser_goes : ∀ i ∈ (withUser u db).1,
    (i.1 = .users → i.2 = u) ∧ (i.1 = .properties → hosted db u (some i.2)) := by
  apply swept_induct
  · intro r _ ht hp i hi
    obtain ⟨h1, h2⟩ := id_of_table ht rfl hi
    refine ⟨fun _ => Option.some.inj (h2.symm.trans (of_decide_eq_true hp)), ?_⟩
    intro h
    rw [h1] at h
    cases h
  · intro r hr fk hfk ha i j hi hP hj
    obtain ⟨hfi, hcol⟩ := ref_eq_some.mp hi
    have hjt := id_table hj
    constructor
    · intro h
      rw [hjt, h] at hfk
      cases hfk
    · intro h
      rw [h] at hjt
      have hfk' : ∀ fk ∈ (schema .properties).foreignKeys, fk.onDelete = .cascade →
          fk = ⟨.hostId, .users, .cascade⟩ := by
        decide
      obtain rfl := hfk' fk (hjt ▸ hfk) ha
      have hv : i.2 = u := hP.1 hfi.symm
      obtain ⟨-, hid⟩ := id_of_table hjt rfl hj
      exact ⟨r, hr, hjt, hv ▸ hcol, rfl, hid⟩

theorem withUser_stays : ∀ i ∈ (withUser u db).1,
    i.1 ∉ [TableName.bookings, .coupons, .reviews, .conversations, .messages] := by
  apply swept_upstream
  · unfold Upstream
    decide
  · decide

/-- A reference to the user that is checked comes after the one with which its row goes. -/
theorem checked_after : ∀ t, ∀ fk ∈ (schema t).foreignKeys, ∀ fk' ∈ (schema t).foreignKeys,
    fk.onDelete = .noAction → fk'.onDelete = .cascade → fk'.target = .users ∨ fk'.target = .properties →
    fk.target ∉ [TableName.bookings, .coupons, .reviews, .conversations, .messages] →
      fk.target = .users ∧ fk'.target = .users ∧ [fk', fk].Sublist (schema t).foreignKeys := by
  intro t
  cases t <;> decide

section
variable (h : Sound schema db)
include h

theorem user_gone (hr : r ∈ db) {fk : ForeignKey TableName Column} (hfk : fk ∈ (schema r.table).foreignKeys)
    (ht : fk.target = .users) (hc : r.cols fk.column = some u) : (.users, u) ∈ (withUser u db).1 := by
  obtain ⟨d, hd, hid⟩ := h.refs r hr fk hfk (.users, u) (ref_eq_some.mpr ⟨ht, hc⟩)
  obtain ⟨hdt, hdk⟩ := id_eq_some.mp hid
  rw [hdt] at hdk
  exact swept_hit hd hdt (decide_eq_true hdk) hid

theorem property_gone {v : Value} (hv : hosted db u (some v)) : (.properties, v) ∈ (withUser u db).1 := by
  obtain ⟨p, hp, hpt, hhost, -, hid⟩ := hv
  have hfk : ⟨.hostId, .users, .cascade⟩ ∈ (schema p.table).foreignKeys := by rw [hpt]; decide
  have hu := user_gone h hp hfk rfl hhost
  have hpid : p.id schema = some (.properties, v) := by
    refine id_eq_some.mpr ⟨hpt, ?_⟩
    rw [hpt]
    exact hid
  exact swept_closed hp (refers_iff.mpr ⟨_, hfk, rfl, _, ref_eq_some.mpr ⟨rfl, hhost⟩, hu⟩) hpid

/-- The foreign key leads from the row to the user, or to a property of the user. -/
def names (db : List (Record δ)) (u : Value) (r : Record δ) (fk : ForeignKey TableName Column) : Prop :=
  (fk.target = .users ∧ r.cols fk.column = some u) ∨ (fk.target = .properties ∧ hosted db u (r.cols fk.column))

/-- Only what hangs on a wishlist goes with the user for another reason. -/
theorem refers_names (hr : r ∈ db) {a : OnDelete} (ha : r.table = .wishlistItems → a ≠ .cascade) :
    refers schema a (withUser u db).1 r = true ↔
      ∃ fk ∈ (schema r.table).foreignKeys, fk.onDelete = a ∧ names db u r fk := by
  have htargets : ∀ t, ∀ fk ∈ (schema t).foreignKeys, (t = .wishlistItems → fk.onDelete ≠ .cascade) →
      fk.target = .users ∨ fk.target = .properties ∨
        fk.target ∈ [TableName.bookings, .coupons, .reviews, .conversations, .messages] := by
    intro t
    cases t <;> decide
  rw [refers_iff]
  constructor
  · rintro ⟨fk, hfk, rfl, i, hi, hg⟩
    refine ⟨fk, hfk, rfl, ?_⟩
    obtain ⟨hfi, hcol⟩ := ref_eq_some.mp hi
    obtain ⟨hu, hp⟩ := withUser_goes i hg
    rcases htargets r.table fk hfk ha with ht | ht | ht
    · rw [hu (hfi.symm.trans ht)] at hcol
      exact .inl ⟨ht, hcol⟩
    · exact .inr ⟨ht, hcol ▸ hp (hfi.symm.trans ht)⟩
    · rw [hfi] at ht
      exact absurd ht (withUser_stays i hg)
  · rintro ⟨fk, hfk, hfa, hn⟩
    refine ⟨fk, hfk, hfa, ?_⟩
    rcases hn with ⟨ht, hc⟩ | ⟨ht, hhost⟩
    · exact ⟨_, ref_eq_some.mpr ⟨ht, hc⟩, user_gone h hr hfk ht hc⟩
    · obtain ⟨v, hv⟩ := Option.isSome_iff_exists.mp hhost.choose_spec.2.2.2.1
      rw [hv] at hhost
      exact ⟨(.properties, v), ref_eq_some.mpr ⟨ht, hv⟩, property_gone h hhost⟩

theorem blocks_iff (hr : r ∈ db) : blocks db u r ↔
    r ∈ (withUser u db).2 ∧ refers schema .noAction (withUser u db).1 r = true := by
  rw [refers_names h hr (by simp), withUser, mem_swept_live, ← Bool.not_eq_true]
  unfold blocks
  by_cases hw : r.table = .wishlistItems
  · simp [hw, createTable, keyedById, names]
  · have hc := refers_names h (u := u) (a := .cascade) hr fun h => absurd h hw
    simp only [withUser] at hc
    rw [hc]
    cases ht : r.table <;> simp [createTable, keyedById, keyedByUser, ofProperty, names, hr] <;> tauto

theorem cleared_ok {E : List (Pending TableName Column Value)} (hE : ∀ e ∈ E, e.Declared schema) (hr : r ∈ db) :
    rowOk schema (cleared E r) = true := by
  have hok := h.rows r hr
  simp only [rowOk, Bool.and_eq_true, List.all_eq_true] at hok ⊢
  constructor
  · intro c hc
    rcases cleared_cols hE r c with hs | ⟨fk, hfk, ha, hcol⟩
    · rw [hs]
      exact hok.1 c hc
    · obtain ⟨ht, hu⟩ := setNull_only hfk ha
      have hnn : Column.userId ∈ (schema .securityLogs).notNull := hu ▸ hcol ▸ ht ▸ hc
      exact absurd hnn (by decide)
  · show (schema r.table).check _ = true
    by_cases ht : r.table = .securityLogs
    · rw [ht]
      rfl
    · have hcols : (cleared E r).cols = r.cols := by
        funext c
        rcases cleared_cols hE r c with hs | ⟨fk, hfk, ha, -⟩
        · exact hs
        · exact absurd (setNull_only hfk ha).1 ht
      rw [hcols]
      exact hok.2

theorem withUser_unblocked (hb : ∀ r ∈ db, ¬ blocks db u r) {i : TableName × Value} (hg : i ∈ (withUser u db).1) :
    Unblocked (unmatched .users (fun r => r.cols .id = some u) db) (fun _ => False) (pending schema i) := by
  refine unblocked_pending fun r hr fk hfk ha hi => ?_
  have hm := mem_unmatched.mp hr
  have hno : refers schema .noAction (withUser u db).1 r = true := refers_iff.mpr ⟨fk, hfk, ha, i, hi, hg⟩
  have hc : refers schema .cascade (withUser u db).1 r = true := by
    by_contra hc
    exact hb r hm.1 ((blocks_iff h hm.1).mpr ⟨mem_swept_live.mpr ⟨hm.1, hm.2, Bool.eq_false_iff.mpr hc⟩, hno⟩)
  have hw : r.table ≠ .wishlistItems := by
    intro hw
    rw [hw] at hfk
    have hcascades : ∀ fk ∈ (schema .wishlistItems).foreignKeys, fk.onDelete = .cascade := by decide
    rw [hcascades fk hfk] at ha
    cases ha
  obtain ⟨fk', hfk', ha', hn⟩ := (refers_names h hm.1 fun hw' => absurd hw' hw).mp hc
  obtain ⟨hfi, -⟩ := ref_eq_some.mp hi
  obtain ⟨ht, ht', hsub⟩ := checked_after r.table fk hfk fk' hfk' ha ha' (hn.imp And.left And.left)
    (hfi ▸ withUser_stays i hg)
  refine ⟨fk', ha', ?_, hsub⟩
  rcases hn with ⟨-, hcol⟩ | ⟨hp, -⟩
  · have hu : i.2 = u := (withUser_goes i hg).1 (hfi.symm.trans ht)
    exact ref_eq_some.mpr ⟨ht'.trans (ht.symm.trans hfi), hu ▸ hcol⟩
  · rw [ht'] at hp
    cases hp

/-- A user can be deleted exactly when no row that outlives the user names the
user, or one of the user's properties, with a reference that does not cascade;
and then no foreign key of any row names the user any more. -/
theorem user_deleted_iff (u : Value) : ((exec schema (deleteUser u) db).isSome ↔ ∀ r ∈ db, ¬ blocks db u r) ∧
    ∀ db', exec schema (deleteUser u) db = some db' → ∀ r ∈ db', ∀ fk ∈ (schema r.table).foreignKeys,
      fk.target = .users → r.cols fk.column ≠ some u := by
  constructor
  · rw [Option.isSome_iff_exists]
    constructor
    · rintro ⟨db', hd⟩ r hr hb
      obtain ⟨hl, hc⟩ := (blocks_iff h hr).mp hb
      obtain ⟨hno, -, -⟩ := deleteAtEnd_eq_some.mp (delete_at_end h.rows hd)
      have hf := hno r hl
      rw [show refers schema .noAction (swept schema .users _ db).1 r = true from hc] at hf
      cases hf
    · intro hb
      exact delete_succeeds (fun r hr E hE => cleared_ok h hE hr) fun i hg => withUser_unblocked h hb hg
  · intro db' hd r hr fk hfk ht hc
    obtain ⟨d, hdm, hid⟩ := (sound_exec h hd).refs r hr fk hfk (.users, u) (ref_eq_some.mpr ⟨ht, hc⟩)
    obtain ⟨-, -, rfl⟩ := deleteAtEnd_eq_some.mp (delete_at_end h.rows hd)
    obtain ⟨d₀, hd₀, rfl⟩ := List.mem_map.mp hdm
    obtain ⟨hdt, hdk⟩ := id_eq_some.mp hid
    have hkey : d₀.cols .id = some u := by
      have hk := nullify_some hdk
      have hdt' : d₀.table = .users := hdt
      have hkeyOf : (schema d₀.table).key = .id := by rw [hdt']; rfl
      exact hkeyOf ▸ hk
    exact (mem_swept_live.mp hd₀).2.1 ⟨hdt, decide_eq_true hkey⟩

end

end

/-- Both cannot go in one statement where one has granted the other a role: the check
finds the role before the second user's reference takes it. -/
example : exec schema (.delete .users fun _ => true)
    [record .users [(.id, .uuid 1), (.email, .text "admin")], record .users [(.id, .uuid 2), (.email, .text "host")],
      record .userRoles [(.id, .uuid 3), (.userId, .uuid 2), (.role, .text "host"), (.grantedBy, .uuid 1)]] = none :=
  rfl

/-- The host cannot be deleted for the booking of the house, nor the guest. -/
theorem user_deleted_iff_stay :
    ¬ (exec schema (deleteUser (.uuid 1)) stay).isSome ∧ ¬ (exec schema (deleteUser (.uuid 2)) stay).isSome := by
  constructor
  · rw [(user_deleted_iff sound_stay (.uuid 1)).1]
    intro h
    refine h (record .bookings [(.id, .uuid 4), (.propertyId, .uuid 3), (.guestId, .uuid 2), (.checkInDate, .date 10),
      (.checkOutDate, .date 12)]) (by simp [stay]) (.inr ?_)
    exact ⟨record .properties [(.id, .uuid 3), (.hostId, .uuid 1)], by simp [stay], rfl, rfl, rfl, rfl⟩
  · rw [(user_deleted_iff sound_stay (.uuid 2)).1]
    intro h
    exact h (record .payments [(.id, .uuid 5), (.bookingId, .uuid 4), (.userId, .uuid 2)]) (by simp [stay]) rfl

end StayApi.PublicSchema
