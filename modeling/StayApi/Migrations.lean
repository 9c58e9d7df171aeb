import StayApi.Catalog
import StayApi.PublicSchema

/-!
# The migrations

`1732113000000_public-schema.js` and `1763442086106_security-log.js`: what `up`
creates from the two schema files, what `down` drops, and the runs of
`node-pg-migrate` that take them up and down, each command in a transaction.
-/

namespace StayApi.Migrations

open Catalog PublicSchema

inductive ExtensionName where
  | uuidOssp
  | postgis
  deriving DecidableEq

/-- The index of the constraint that has a name, and those created; PostgreSQL finds free names for the others. -/
inductive IndexName where
  | uniqueOauth
  | idxPropertiesCoordinates
  | idxPropertiesHostId
  | idxPropertiesStatus
  | idxPropertyAmenitiesPropertyId
  | idxPropertyMediaPropertyId
  | idxPropertyAvailabilityPropertyDate
  | idxBookingsPropertyId
  | idxBookingsGuestId
  | idxBookingsStatus
  | idxBookingsDates
  | idxPaymentOutboxBookingId
  | idxPaymentOutboxStatus
  | idxPaymentOutboxNextRetry
  | idxPaymentsBookingId
  | idxPaymentsUserId
  | idxPaymentsTransactionId
  | idxPaymentMethodsUserId
  | idxHostPayoutsHostId
  | idxHostPayoutsBookingId
  | idxCouponsCode
  | idxCouponsValidDates
  | idxCouponUsageCouponId
  | idxCouponUsageUserId
  | idxReviewsBookingId
  | idxReviewsPropertyId
  | idxReviewsRevieweeId
  | idxConversationsGuestId
  | idxConversationsHostId
  | idxMessagesConversationId
  | idxMessagesSenderId
  | idxWishlistsUserId
  | idxWishlistItemsWishlistId
  | idxNotificationsUserId
  | idxNotificationsUnread
  | idxAdminActionsAdminId
  | idxAdminActionsTarget
  | idxSecurityLogsUserId
  | idxSecurityLogsEventType
  | idxSecurityLogsCreatedTime
  | idxSecurityLogsUserCreated
  | idxSecurityLogsSeverity
  deriving DecidableEq

/-- The names the migrations use; `other` is any other. A table's name is also its row type's. The one function is
`update_updated_time_column()`. -/
inductive Name where
  | extension (e : ExtensionName)
  | function
  | table (t : TableName)
  | index (i : IndexName)
  | other (name : String)
  deriving DecidableEq

/-- The parts of a table that need something else: a constraint, a default, or a column by its type. -/
inductive Part where
  | reference (column : Column)
  | default (column : Column)
  | column (name : String)

abbrev Obj : Type := Object Name Part

/-! ## What the schema files create -/

def extension (e : ExtensionName) : Obj := ⟨.extension e, [], []⟩

/-- `DEFAULT uuid_generate_v4()` of a key `id`, the column of type `GEOGRAPHY`, and the references. -/
def table (t : TableName) : Obj where
  name := .table t
  needs := []
  parts :=
    (if (schema t).key = .id then [(.default .id, .extension .uuidOssp)] else []) ++
      (if t = .properties then [(.column "coordinates", .extension .postgis)] else []) ++
      (schema t).foreignKeys.map fun fk => (.reference fk.column, .table fk.target)

/-- The one index `USING GIST` needs the operators of PostGIS. -/
def index (t : TableName) (i : IndexName) : Obj where
  name := .index i
  needs := .table t :: if i = .idxPropertiesCoordinates then [.extension .postgis] else []
  parts := []

def tableWith (t : TableName) (indexes : List IndexName) : List Obj := table t :: indexes.map (index t)

def publicSchema : List Obj :=
  [tableWith .users [.uniqueOauth], tableWith .userProfiles [], tableWith .userRoles [], tableWith .userSettings [],
    tableWith .emailVerifications [], tableWith .phoneVerifications [],
    tableWith .properties [.idxPropertiesCoordinates, .idxPropertiesHostId, .idxPropertiesStatus],
    tableWith .propertyAmenities [.idxPropertyAmenitiesPropertyId],
    tableWith .propertyMedia [.idxPropertyMediaPropertyId], tableWith .propertyPricing [],
    tableWith .propertyAvailability [.idxPropertyAvailabilityPropertyDate], tableWith .propertyPolicies [],
    tableWith .bookings [.idxBookingsPropertyId, .idxBookingsGuestId, .idxBookingsStatus, .idxBookingsDates],
    tableWith .bookingPriceBreakdown [],
    tableWith .paymentOutbox [.idxPaymentOutboxBookingId, .idxPaymentOutboxStatus, .idxPaymentOutboxNextRetry],
    tableWith .payments [.idxPaymentsBookingId, .idxPaymentsUserId, .idxPaymentsTransactionId],
    tableWith .paymentMethods [.idxPaymentMethodsUserId],
    tableWith .hostPayouts [.idxHostPayoutsHostId, .idxHostPayoutsBookingId],
    tableWith .coupons [.idxCouponsCode, .idxCouponsValidDates],
    tableWith .couponUsage [.idxCouponUsageCouponId, .idxCouponUsageUserId],
    tableWith .reviews [.idxReviewsBookingId, .idxReviewsPropertyId, .idxReviewsRevieweeId],
    tableWith .reviewResponses [], tableWith .conversations [.idxConversationsGuestId, .idxConversationsHostId],
    tableWith .messages [.idxMessagesConversationId, .idxMessagesSenderId],
    tableWith .wishlists [.idxWishlistsUserId], tableWith .wishlistItems [.idxWishlistItemsWishlistId],
    tableWith .notifications [.idxNotificationsUserId, .idxNotificationsUnread],
    tableWith .adminActions [.idxAdminActionsAdminId, .idxAdminActionsTarget]].flatten

def securityLog : List Obj :=
  tableWith .securityLogs [.idxSecurityLogsUserId, .idxSecurityLogsEventType, .idxSecurityLogsCreatedTime,
    .idxSecurityLogsUserCreated, .idxSecurityLogsSeverity]

/-! ## The migrations -/

structure Migration where
  up : List Obj → Option (List Obj)
  down : List Obj → Option (List Obj)

def tables : List TableName :=
  [.adminActions, .notifications, .wishlistItems, .wishlists, .messages, .conversations, .reviewResponses, .reviews,
    .couponUsage, .coupons, .hostPayouts, .paymentMethods, .payments, .paymentOutbox, .bookingPriceBreakdown, .bookings,
    .propertyPolicies, .propertyAvailability, .propertyPricing, .propertyMedia, .propertyAmenities, .properties,
    .phoneVerifications, .emailVerifications, .userSettings, .userRoles, .userProfiles, .users]

def dropTables (ts : List TableName) (c : List Obj) : List Obj :=
  (ts.map Name.table).foldl (fun c x => dropCascade x c) c

/-- What `down` drops without `CASCADE`, in this order. -/
def bare : List Name := [.function, .extension .postgis, .extension .uuidOssp]

/-- Whether an extension can be brought in: the server has it, the role may, no other schema holds it, and nothing is
in its way. -/
abbrev Available : Type := ExtensionName → Bool

section
variable (available : Available)

def publicSchemaMigration : Migration where
  up c := do
    let c ← createIfNotExists (available .uuidOssp) (extension .uuidOssp) c
    let c ← createIfNotExists (available .postgis) (extension .postgis) c
    createAll publicSchema c
  down c := bare.foldlM (fun c x => dropIfExists x c) (dropTables tables c)

def securityLogMigration : Migration where
  up c := createAll securityLog c
  down c := some (dropTables [.securityLogs] c)

def migrations : List Migration := [publicSchemaMigration available, securityLogMigration]

/-! ## The runs -/

/-- How many of the migrations have been applied, in their order, and the catalog. -/
structure State where
  applied : Nat
  catalog : List Obj

def upOne (s : State) : Option State :=
  match (migrations available)[s.applied]? with
  | some migration => (migration.up s.catalog).map fun c => ⟨s.applied + 1, c⟩
  | none => some s

def downOne (s : State) : Option State :=
  match s.applied with
  | 0 => some s
  | k + 1 =>
    match (migrations available)[k]? with
    | some migration => (migration.down s.catalog).map fun c => ⟨k, c⟩
    | none => none

def times (f : State → Option State) : Nat → State → Option State
  | 0, s => some s
  | n + 1, s => (f s).bind (times f n)

inductive Command where
  | up (count : Nat)
  | down (count : Nat)

def command (s : State) : Command → Option State
  | .up count => times (upOne available) count s
  | .down count => times (downOne available) count s

def commands (s : State) (cs : List Command) : State := cs.foldl (fun s c => (command available s c).getD s) s

end

/-! ## What the schema files are like -/

/-- The migrations' own tables and indexes. -/
def own : Name → Bool
  | .table _ => true
  | .index _ => true
  | _ => false

/-- The table of the second migration, and its indexes. -/
def ofSecurityLog : Name → Bool
  | .table t => t = .securityLogs
  | .index i => (securityLog.map Object.name).any (· = .index i)
  | _ => false

theorem creatable_publicSchema :
    creatable publicSchema [.extension .uuidOssp, .extension .postgis] = true := by decide +kernel

theorem creatable_securityLog :
    creatable securityLog [.extension .uuidOssp, .table .users] = true := by decide

def created : Nat → List Obj
  | 0 => []
  | 1 => publicSchema
  | _ => publicSchema ++ securityLog

theorem own_publicSchema : publicSchema.all (fun o => own o.name && !ofSecurityLog o.name) = true := by decide +kernel

theorem own_securityLog : securityLog.all (fun o => own o.name && ofSecurityLog o.name) = true := by decide +kernel

/-- The drops take all the tables of the first migration, and with them their indexes. -/
theorem dropped_publicSchema : publicSchema.all (fun o =>
    (tables.map Name.table).any (· = o.name) || o.needs.any fun x => (tables.map Name.table).any (· = x)) = true := by
  decide +kernel

theorem dropped_securityLog : securityLog.all (fun o =>
    o.name = .table .securityLogs || o.needs.any (· = .table .securityLogs)) = true := by decide +kernel

theorem requires_publicSchema : publicSchema.all (fun o => o.requires.all fun x => !ofSecurityLog x) = true := by
  decide +kernel

/-! ## A catalog the migrations are run on -/

/-- Whatever the objects require is there, and none of them has a name of the migrations' tables and indexes. -/
structure Fits (c : List Obj) : Prop where
  closed : Closed c
  fresh : ∀ o ∈ c, own o.name = false

def inUse (c : List Obj) : Bool := c.any (hinders bare)

structure Migrated (c : List Obj) (s : State) : Prop where
  applied : s.applied ≤ 2
  closed : Closed s.catalog
  others : ∀ o, o.name ∉ bare → (o ∈ s.catalog ↔ o ∈ c ∨ o ∈ created s.applied)
  bare : ∀ o ∈ s.catalog, o.name ∈ bare → o ∈ c ∨ ∃ e, o = extension e
  extensions : 0 < s.applied → ∀ e, .extension e ∈ names s.catalog
  used : inUse c = true → ∀ o ∈ c, o ∈ s.catalog

section
variable {available : Available} {c c' : List Obj} {s : State} {o : Obj} {x : Name}

theorem own_of_ofSecurityLog (h : ofSecurityLog x = true) : own x = true := by
  cases x with
  | extension e => cases h
  | function => cases h
  | table t => rfl
  | index i => rfl
  | other name => cases h

theorem not_bare_of_own (h : own x = true) : x ∉ bare := by
  intro hb
  simp only [bare, List.mem_cons, List.not_mem_nil, or_false] at hb
  rcases hb with rfl | rfl | rfl <;> cases h

theorem mem_publicSchema (h : o ∈ publicSchema) : own o.name = true ∧ ofSecurityLog o.name = false := by
  simpa using List.all_eq_true.mp own_publicSchema o h

theorem mem_securityLog (h : o ∈ securityLog) : own o.name = true ∧ ofSecurityLog o.name = true := by
  simpa using List.all_eq_true.mp own_securityLog o h

theorem own_created {k : Nat} (h : o ∈ created k) : own o.name = true := by
  rcases k with _ | _ | k
  · cases h
  · exact (mem_publicSchema h).1
  · exact (List.mem_append.mp h).elim (fun h => (mem_publicSchema h).1) fun h => (mem_securityLog h).1

theorem not_mem_of_own (hc : Fits c) (h : own o.name = true) : o ∉ c := by
  intro ho
  rw [hc.fresh o ho] at h
  cases h

theorem requires_fresh (hc : Fits c) (ho : o ∈ c) (hx : x ∈ o.requires) : own x = false := by
  obtain ⟨p, hp, rfl⟩ := mem_names.mp (hc.closed o ho x hx)
  exact hc.fresh p hp

theorem mem_catalog (h : Migrated c s) (ho : o ∈ s.catalog) :
    o ∈ c ∨ (∃ e, o = extension e) ∨ o ∈ created s.applied := by
  by_cases hb : o.name ∈ bare
  · exact (h.bare o ho hb).imp id .inl
  · exact ((h.others o hb).mp ho).imp id .inr

theorem hinders_extension (e : ExtensionName) : hinders bare (extension e) = false := by
  cases e <;> rfl

theorem inUse_others (hc : Fits c) (h : Migrated c s) (hm : ∀ o, o ∈ c' ↔ o ∈ s.catalog ∧ ¬ own o.name = true) :
    c'.any (hinders bare) = inUse c := by
  rw [Bool.eq_iff_iff]
  constructor
  · intro hany
    obtain ⟨o, ho, hh⟩ := List.any_eq_true.mp hany
    obtain ⟨hs, hown⟩ := (hm o).mp ho
    rcases mem_catalog h hs with hb | ⟨e, rfl⟩ | hcr
    · exact List.any_eq_true.mpr ⟨o, hb, hh⟩
    · rw [hinders_extension] at hh
      cases hh
    · exact absurd (own_created hcr) hown
  · intro hany
    obtain ⟨o, ho, hh⟩ := List.any_eq_true.mp hany
    exact List.any_eq_true.mpr ⟨o, (hm o).mpr ⟨h.used hany o ho, by simp [hc.fresh o ho]⟩, hh⟩

/-! ## The first migration -/

theorem mem_dropTables (hc : Fits c) (h : Migrated c s) (ha : s.applied = 1) :
    o ∈ dropTables tables s.catalog ↔ o ∈ s.catalog ∧ ¬ own o.name = true := by
  unfold dropTables
  rw [foldl_dropCascade h.closed]
  refine mem_without_group (p := fun x => own x = true) ?_ ?_ ?_
  · intro x hx
    obtain ⟨t, -, rfl⟩ := List.mem_map.mp hx
    rfl
  · intro o ho hown
    rcases (h.others o (not_bare_of_own hown)).mp ho with hb | hcr
    · exact absurd hb (not_mem_of_own hc hown)
    · rw [ha] at hcr
      have hd := List.all_eq_true.mp dropped_publicSchema o hcr
      simp only [Bool.or_eq_true, List.any_eq_true, decide_eq_true_eq, exists_eq_right] at hd
      rcases hd with hd | ⟨x, hx, hd⟩
      · exact .dropped hd
      · exact .along (.dropped hd) ho hx
  · intro o ho hown x hx
    rcases mem_catalog h ho with hb | ⟨e, rfl⟩ | hcr
    · simp [requires_fresh hc hb hx]
    · cases hx
    · exact absurd (own_created hcr) hown

theorem publicSchema_down (hc : Fits c) (h : Migrated c s) (ha : s.applied = 1) :
    (inUse c = true → downOne available s = none) ∧
      (inUse c = false → ∃ s', downOne available s = some s' ∧ s'.applied = 0 ∧ Migrated c s' ∧ ∀ o ∈ s'.catalog, o.name ∉ bare) := by
  have hm : ∀ o, o ∈ dropTables tables s.catalog ↔ o ∈ s.catalog ∧ ¬ own o.name = true :=
    fun o => mem_dropTables hc h ha
  have hclosed : Closed (dropTables tables s.catalog) := by
    unfold dropTables
    rw [foldl_dropCascade h.closed]
    exact closed_without h.closed
  have hdown : downOne available s =
      (bare.foldlM (fun c x => dropIfExists x c) (dropTables tables s.catalog)).map fun c => ⟨0, c⟩ := by
    unfold downOne
    rw [ha]
    rfl
  generalize dropTables tables s.catalog = c₁ at hm hclosed hdown
  rw [hdown, foldlM_dropIfExists hclosed, inUse_others hc h hm]
  constructor
  · intro hu
    rw [if_pos hu]
    rfl
  · intro hu
    rw [if_neg (by simp [hu])]
    refine ⟨_, rfl, rfl, ⟨Nat.zero_le _, ?_, ?_, ?_, ?_, ?_⟩, ?_⟩
    · exact closed_drops hclosed ((inUse_others hc h hm).trans hu)
    · intro o hb
      simp only [List.mem_filter, hm, decide_eq_true_eq, hb, not_false_eq_true, and_true, h.others o hb]
      constructor
      · rintro ⟨ho | ho, hown⟩
        · exact .inl ho
        · exact absurd (own_created ho) hown
      · rintro (ho | ho)
        · exact ⟨.inl ho, by simp [hc.fresh o ho]⟩
        · cases ho
    · intro o ho hb
      exact absurd hb (by simpa using (List.mem_filter.mp ho).2)
    · intro hpos
      cases hpos
    · intro hu'
      rw [hu] at hu'
      cases hu'
    · intro o ho
      simpa using (List.mem_filter.mp ho).2

theorem extension_created {e : ExtensionName} (he : .extension e ∈ names c ∨ available e = true) (hc : Closed c) :
    ∃ c', createIfNotExists (available e) (extension e) c = some c' ∧
      Closed c' ∧ .extension e ∈ names c' ∧ ∀ o, o ∈ c' ↔ o ∈ c ∨ (o = extension e ∧ .extension e ∉ names c) := by
  unfold createIfNotExists
  by_cases hn : (extension e).name ∈ names c
  · rw [if_pos hn]
    exact ⟨c, rfl, hc, hn, fun o => by simp [show Name.extension e ∈ names c from hn]⟩
  · have hnew : Name.extension e ∉ names c := hn
    have hok : creatable [extension e] (names c) = true := by simp [creatable, hnew, extension, Object.requires]
    rw [if_neg hn, if_pos (he.resolve_left hnew)]
    refine ⟨c ++ [extension e], ?_, closed_append hc hok, ?_, ?_⟩
    · have := createAll_eq hok
      simpa [createAll] using this
    · rw [names_append]
      exact List.mem_append_right _ (List.mem_singleton.mpr rfl)
    · intro o
      simp [hnew]

theorem extension_missing {e : ExtensionName} (he : ¬ (.extension e ∈ names c ∨ available e = true)) :
    createIfNotExists (available e) (extension e) c = none := by
  unfold createIfNotExists
  have hn : ¬ (extension e).name ∈ names c := fun hn => he (.inl hn)
  have ha : ¬ available e = true := fun ha => he (.inr ha)
  rw [if_neg hn, if_neg ha]

/-- Each extension is there, or can be brought in. -/
def Extended (available : Available) (c : List Obj) : Prop :=
  ∀ e, .extension e ∈ names c ∨ available e = true

theorem publicSchema_stuck (hx : ¬ Extended available s.catalog) (h : Migrated c s) (ha : s.applied = 0) :
    upOne available s = none := by
  have hup : upOne available s = ((publicSchemaMigration available).up s.catalog).map fun c => ⟨1, c⟩ := by
    unfold upOne
    rw [ha]
    rfl
  rw [hup]
  unfold publicSchemaMigration
  by_cases huuid : .extension .uuidOssp ∈ names s.catalog ∨ available .uuidOssp = true
  · obtain ⟨c₁, h₁, -, -, hm₁⟩ := extension_created huuid h.closed
    have hgis : ¬ (.extension .postgis ∈ names c₁ ∨ available .postgis = true) := by
      rintro (hn | hn)
      · obtain ⟨o, ho, hname⟩ := mem_names.mp hn
        rcases (hm₁ o).mp ho with ho | ⟨rfl, -⟩
        · refine hx fun e => ?_
          cases e with
          | uuidOssp => exact huuid
          | postgis => exact .inl (mem_names.mpr ⟨o, ho, hname⟩)
        · cases hname
      · refine hx fun e => ?_
        cases e with
        | uuidOssp => exact huuid
        | postgis => exact .inr hn
    simp only [h₁, extension_missing hgis, bind, Option.bind, Option.map]
  · simp only [extension_missing huuid, bind, Option.bind, Option.map]

theorem publicSchema_up (hx : Extended available s.catalog) (hc : Fits c) (h : Migrated c s) (ha : s.applied = 0) :
    ∃ s', upOne available s = some s' ∧ s'.applied = 1 ∧ Migrated c s' := by
  obtain ⟨c₁, h₁, hclosed₁, huuid, hm₁⟩ := extension_created (hx .uuidOssp) h.closed
  have hx₁ : .extension .postgis ∈ names c₁ ∨ available .postgis = true := by
    refine (hx .postgis).imp_left fun hn => ?_
    obtain ⟨o, ho, hname⟩ := mem_names.mp hn
    exact mem_names.mpr ⟨o, (hm₁ o).mpr (.inl ho), hname⟩
  obtain ⟨c₂, h₂, hclosed₂, hgis, hm₂⟩ := extension_created hx₁ hclosed₁
  have hm : ∀ o, o ∈ c₂ → o ∈ c ∨ ∃ e, o = extension e := by
    intro o ho
    rcases (hm₂ o).mp ho with ho | ⟨rfl, -⟩
    · rcases (hm₁ o).mp ho with ho | ⟨rfl, -⟩
      · rcases mem_catalog h ho with hb | he | hcr
        · exact .inl hb
        · exact .inr he
        · rw [ha] at hcr
          cases hcr
      · exact .inr ⟨_, rfl⟩
    · exact .inr ⟨_, rfl⟩
  have hkept : ∀ o ∈ s.catalog, o ∈ c₂ := fun o ho => (hm₂ o).mpr (.inl ((hm₁ o).mpr (.inl ho)))
  have huuid₂ : .extension .uuidOssp ∈ names c₂ := by
    obtain ⟨o, ho, hn⟩ := mem_names.mp huuid
    exact mem_names.mpr ⟨o, (hm₂ o).mpr (.inl ho), hn⟩
  have hok : creatable publicSchema (names c₂) = true := by
    refine creatable_mono creatable_publicSchema ?_ ?_
    · intro x hx
      rcases List.mem_cons.mp hx with rfl | hx
      · exact huuid₂
      · rw [List.mem_singleton.mp hx]
        exact hgis
    · intro o ho hn
      obtain ⟨p, hp, hpn⟩ := mem_names.mp hn
      have hown := (mem_publicSchema ho).1
      rw [← hpn] at hown
      rcases hm p hp with hb | ⟨e, rfl⟩
      · exact not_mem_of_own hc hown hb
      · cases hown
  have hup : upOne available s = some ⟨1, c₂ ++ publicSchema⟩ := by
    have hcreate := createAll_eq hok
    unfold upOne
    rw [ha]
    show ((publicSchemaMigration available).up s.catalog).map _ = _
    unfold publicSchemaMigration
    simp only [h₁, h₂, hcreate, bind, Option.bind, Option.map]
  refine ⟨_, hup, rfl, ⟨by simp, closed_append hclosed₂ hok, ?_, ?_, ?_, ?_⟩⟩
  · intro o hb
    show o ∈ c₂ ++ publicSchema ↔ o ∈ c ∨ o ∈ publicSchema
    rw [List.mem_append]
    refine or_congr_left' fun _ => ⟨fun ho => ?_, fun ho => ?_⟩
    · rcases hm o ho with hb' | ⟨e, rfl⟩
      · exact hb'
      · exact absurd (by cases e <;> simp [bare, extension]) hb
    · exact hkept o ((h.others o hb).mpr (.inl ho))
  · intro o ho hb
    rcases List.mem_append.mp ho with ho | ho
    · exact hm o ho
    · exact absurd hb (not_bare_of_own (mem_publicSchema ho).1)
  · intro _ e
    rw [names_append]
    cases e with
    | uuidOssp => exact List.mem_append_left _ huuid₂
    | postgis => exact List.mem_append_left _ hgis
  · intro hu o ho
    exact List.mem_append_left _ (hkept o (h.used hu o ho))

/-! ## The second migration -/

theorem securityLog_up (hc : Fits c) (h : Migrated c s) (ha : s.applied = 1) :
    ∃ s', upOne available s = some s' ∧ s'.applied = 2 ∧ Migrated c s' := by
  have hpublic : ∀ o ∈ publicSchema, o ∈ s.catalog := by
    intro o ho
    refine (h.others o (not_bare_of_own (mem_publicSchema ho).1)).mpr (.inr ?_)
    rw [ha]
    exact ho
  have hok : creatable securityLog (names s.catalog) = true := by
    refine creatable_mono creatable_securityLog ?_ ?_
    · intro x hx
      rcases List.mem_cons.mp hx with rfl | hx
      · exact h.extensions (by omega) _
      · rw [List.mem_singleton.mp hx]
        exact mem_names.mpr ⟨table .users, hpublic _ (List.mem_cons_self ..), rfl⟩
    · intro o ho hn
      obtain ⟨p, hp, hpn⟩ := mem_names.mp hn
      have hsec := (mem_securityLog ho).2
      rw [← hpn] at hsec
      rcases mem_catalog h hp with hb | ⟨e, rfl⟩ | hcr
      · exact not_mem_of_own hc (own_of_ofSecurityLog hsec) hb
      · cases hsec
      · rw [ha] at hcr
        rw [(mem_publicSchema hcr).2] at hsec
        cases hsec
  have hup : upOne available s = some ⟨2, s.catalog ++ securityLog⟩ := by
    have hcreate := createAll_eq hok
    unfold upOne
    rw [ha]
    show (createAll securityLog s.catalog).map _ = _
    rw [hcreate]
    rfl
  refine ⟨_, hup, rfl, ⟨by simp, closed_append h.closed hok, ?_, ?_, ?_, ?_⟩⟩
  · intro o hb
    show o ∈ s.catalog ++ securityLog ↔ o ∈ c ∨ o ∈ publicSchema ++ securityLog
    rw [List.mem_append, List.mem_append, h.others o hb, ha, or_assoc]
    rfl
  · intro o ho hb
    rcases List.mem_append.mp ho with ho | ho
    · exact h.bare o ho hb
    · exact absurd hb (not_bare_of_own (mem_securityLog ho).1)
  · intro _ e
    rw [names_append]
    exact List.mem_append_left _ (h.extensions (by omega) e)
  · intro hu o ho
    exact List.mem_append_left _ (h.used hu o ho)

theorem securityLog_down (hc : Fits c) (h : Migrated c s) (ha : s.applied = 2) :
    ∃ s', downOne available s = some s' ∧ s'.applied = 1 ∧ Migrated c s' := by
  have hm : ∀ o, o ∈ dropTables [.securityLogs] s.catalog ↔ o ∈ s.catalog ∧ ¬ ofSecurityLog o.name = true := by
    intro o
    unfold dropTables
    rw [foldl_dropCascade h.closed]
    refine mem_without_group (p := fun x => ofSecurityLog x = true) ?_ ?_ ?_
    · intro x hx
      rw [List.mem_singleton.mp hx]
      rfl
    · intro o ho hsec
      have hown := own_of_ofSecurityLog hsec
      rcases (h.others o (not_bare_of_own hown)).mp ho with hb | hcr
      · exact absurd hb (not_mem_of_own hc hown)
      · rw [ha] at hcr
        rcases List.mem_append.mp hcr with hp | hs
        · rw [(mem_publicSchema hp).2] at hsec
          cases hsec
        · have hd := List.all_eq_true.mp dropped_securityLog o hs
          simp only [Bool.or_eq_true, List.any_eq_true, decide_eq_true_eq, exists_eq_right] at hd
          rcases hd with hd | hd
          · exact .dropped (List.mem_singleton.mpr hd)
          · exact .along (.dropped (List.mem_singleton.mpr rfl)) ho hd
    · intro o ho hsec x hx
      rcases mem_catalog h ho with hb | ⟨e, rfl⟩ | hcr
      · intro hx'
        have := own_of_ofSecurityLog hx'
        rw [requires_fresh hc hb hx] at this
        cases this
      · cases hx
      · rw [ha] at hcr
        rcases List.mem_append.mp hcr with hp | hs
        · have hr := List.all_eq_true.mp (List.all_eq_true.mp requires_publicSchema o hp) x hx
          simpa using hr
        · exact absurd (mem_securityLog hs).2 hsec
  have hdown : downOne available s = some ⟨1, dropTables [.securityLogs] s.catalog⟩ := by
    unfold downOne
    rw [ha]
    rfl
  have hclosed : Closed (dropTables [.securityLogs] s.catalog) := by
    unfold dropTables
    rw [foldl_dropCascade h.closed]
    exact closed_without h.closed
  generalize dropTables [.securityLogs] s.catalog = c₁ at hm hdown hclosed
  refine ⟨_, hdown, rfl, ⟨by simp, hclosed, ?_, ?_, ?_, ?_⟩⟩
  · intro o hb
    show o ∈ c₁ ↔ o ∈ c ∨ o ∈ publicSchema
    rw [hm, h.others o hb, ha]
    show (o ∈ c ∨ o ∈ publicSchema ++ securityLog) ∧ _ ↔ _
    rw [List.mem_append]
    constructor
    · rintro ⟨ho | ho | ho, hsec⟩
      · exact .inl ho
      · exact .inr ho
      · exact absurd (mem_securityLog ho).2 hsec
    · rintro (ho | ho)
      · exact ⟨.inl ho, fun hsec => not_mem_of_own hc (own_of_ofSecurityLog hsec) ho⟩
      · exact ⟨.inr (.inl ho), by simp [(mem_publicSchema ho).2]⟩
  · intro o ho hb
    exact h.bare o ((hm o).mp ho).1 hb
  · intro _ e
    obtain ⟨o, ho, hn⟩ := mem_names.mp (h.extensions (by omega) e)
    exact mem_names.mpr ⟨o, (hm o).mpr ⟨ho, by simp [hn, ofSecurityLog]⟩, hn⟩
  · intro hu o ho
    exact (hm o).mpr ⟨h.used hu o ho, fun hsec => not_mem_of_own hc (own_of_ofSecurityLog hsec) ho⟩

/-! ## Commands -/

/-- Whether `up` gets so far: not if it comes to the first migration where an extension is missing. -/
def Applies (available : Available) (s : State) (n : Nat) : Prop :=
  n = 0 ∨ 0 < s.applied ∨ Extended available s.catalog

theorem upOne_spec (hx : 0 < s.applied ∨ Extended available s.catalog) (hc : Fits c) (h : Migrated c s) :
    ∃ s', upOne available s = some s' ∧ s'.applied = min (s.applied + 1) 2 ∧ Migrated c s' := by
  have ha := h.applied
  by_cases h0 : s.applied = 0
  · have hx' : Extended available s.catalog := hx.resolve_left (by omega)
    obtain ⟨s', hs, ha', h'⟩ := publicSchema_up hx' hc h h0
    exact ⟨s', hs, by omega, h'⟩
  · by_cases h1 : s.applied = 1
    · obtain ⟨s', hs, ha', h'⟩ := securityLog_up hc h h1
      exact ⟨s', hs, by omega, h'⟩
    · have h2 : s.applied = 2 := by omega
      refine ⟨s, ?_, by omega, h⟩
      unfold upOne
      rw [h2]
      rfl

theorem up_spec (hc : Fits c) (n : Nat) (h : Migrated c s) :
    (Applies available s n →
      ∃ s', times (upOne available) n s = some s' ∧ s'.applied = min (s.applied + n) 2 ∧ Migrated c s') ∧
    (¬ Applies available s n → times (upOne available) n s = none) := by
  constructor
  · intro hx
    induction n generalizing s with
    | zero => exact ⟨s, rfl, by have := h.applied; omega, h⟩
    | succ n ih =>
      obtain ⟨t, ht, ha, h'⟩ := upOne_spec (hx.resolve_left (by omega)) hc h
      obtain ⟨s', hs, ha', hm⟩ := ih h' (.inr (.inl (by omega)))
      refine ⟨s', ?_, by omega, hm⟩
      rw [times, ht]
      exact hs
  · intro hx
    obtain ⟨hn, ha, hext⟩ : n ≠ 0 ∧ s.applied = 0 ∧ ¬ Extended available s.catalog := by
      simpa [Applies, not_or] using hx
    obtain ⟨k, rfl⟩ := Nat.exists_eq_succ_of_ne_zero hn
    rw [times, publicSchema_stuck hext h ha]
    rfl

/-- Whether `down` gets so far: not if it comes to the first migration and something else requires what that drops. -/
def Undoes (c : List Obj) (s : State) (n : Nat) : Prop := n < s.applied ∨ s.applied = 0 ∨ inUse c = false

theorem down_nothing (h0 : s.applied = 0) (n : Nat) : times (downOne available) n s = some s := by
  induction n with
  | zero => rfl
  | succ n ih =>
    have hs : downOne available s = some s := by
      unfold downOne
      rw [h0]
    rw [times, hs]
    exact ih

theorem down_spec (hc : Fits c) (n : Nat) (h : Migrated c s) :
    (Undoes c s n → ∃ s', times (downOne available) n s = some s' ∧ s'.applied = s.applied - n ∧ Migrated c s' ∧
      (0 < s.applied → s'.applied = 0 → ∀ o ∈ s'.catalog, o.name ∉ bare)) ∧
    (¬ Undoes c s n → times (downOne available) n s = none) := by
  induction n generalizing s with
  | zero =>
    constructor
    · exact fun _ => ⟨s, rfl, rfl, h, fun hpos h0 => absurd h0 (by omega)⟩
    · intro hno
      exact absurd (by unfold Undoes; omega) hno
  | succ n ih =>
    have ha := h.applied
    by_cases h0 : s.applied = 0
    · exact ⟨fun _ => ⟨s, down_nothing h0 _, by omega, h, fun hpos => by omega⟩, fun hno => absurd (.inr (.inl h0)) hno⟩
    · by_cases h1 : s.applied = 1
      · obtain ⟨hfails, hworks⟩ := publicSchema_down hc h h1
        by_cases hu : inUse c = true
        · constructor
          · rintro (hn | hn | hn)
            · omega
            · omega
            · rw [hu] at hn
              cases hn
          · intro _
            rw [times, hfails hu]
            rfl
        · have hfree : inUse c = false := by simpa using hu
          obtain ⟨t, ht, h0', h', hclear⟩ := hworks hfree
          refine ⟨fun _ => ⟨t, ?_, by omega, h', fun _ _ => hclear⟩, fun hno => absurd (.inr (.inr hfree)) hno⟩
          rw [times, ht]
          exact down_nothing h0' n
      · obtain ⟨t, ht, h1', h'⟩ := securityLog_down hc h (by omega)
        have htimes : times (downOne available) (n + 1) s = times (downOne available) n t := by
          rw [times, ht]
          rfl
        have hsame : Undoes c s (n + 1) ↔ Undoes c t n := by
          have h2 : s.applied = 2 := by omega
          unfold Undoes
          have hn : n + 1 < 2 ↔ n < 1 := by omega
          rw [h1', h2, hn]
          simp
        rw [htimes, hsame]
        refine ⟨fun hd => ?_, (ih h').2⟩
        obtain ⟨s', hs, ha', hm, hclear⟩ := (ih h').1 hd
        exact ⟨s', hs, by omega, hm, fun _ => hclear (by omega)⟩

theorem migrated_start (hc : Fits c) : Migrated c ⟨0, c⟩ := by
  refine ⟨by simp, hc.closed, fun o _ => ⟨.inl, fun ho => ?_⟩, fun o ho _ => .inl ho, fun hpos => ?_, fun _ o ho => ho⟩
  · exact ho.elim id fun ho => by cases ho
  · cases hpos

theorem migrated_command (hc : Fits c) (h : Migrated c s) (cmd : Command) : Migrated c ((command available s cmd).getD s) := by
  cases cmd with
  | up n =>
    by_cases hx : Applies available s n
    · obtain ⟨s', hs, -, h'⟩ := (up_spec hc n h).1 hx
      rw [command, hs]
      exact h'
    · rw [command, (up_spec hc n h).2 hx]
      exact h
  | down n =>
    by_cases hd : Undoes c s n
    · obtain ⟨s', hs, -, h', -⟩ := (down_spec hc n h).1 hd
      rw [command, hs]
      exact h'
    · rw [command, (down_spec hc n h).2 hd]
      exact h

theorem migrated_commands (hc : Fits c) (h : Migrated c s) (cs : List Command) : Migrated c (commands available s cs) := by
  induction cs generalizing s with
  | nil => exact h
  | cons cmd cs ih => exact ih (migrated_command hc h cmd)

end

/-- **Up and down.** After any commands the tables and indexes there are those the migrations applied create, and
every other object of the database is as it was, the two extensions and the trigger function excepted. Going up fails
exactly if it comes to the first migration where an extension is neither there nor available. Going down fails exactly
if it comes to the first migration while another object requires an extension or the function, and then nothing of the
database is ever dropped; otherwise it takes the extensions and the function away, whoever made them. -/
theorem migrations_run (available : Available) (c : List Obj) (hc : Fits c) (cs : List Command) :
    let s := commands available ⟨0, c⟩ cs
    (∀ o, o.name ∉ bare → (o ∈ s.catalog ↔ o ∈ c ∨ o ∈ created s.applied)) ∧
      (∀ o ∈ s.catalog, o.name ∈ bare → o ∈ c ∨ ∃ e, o = extension e) ∧
      (inUse c = true → ∀ o ∈ c, o ∈ s.catalog) ∧
      (∀ n, (Applies available s n →
          ∃ s', command available s (.up n) = some s' ∧ s'.applied = min (s.applied + n) 2) ∧
        (¬ Applies available s n → command available s (.up n) = none)) ∧
      ∀ n, (Undoes c s n → ∃ s', command available s (.down n) = some s' ∧ s'.applied = s.applied - n ∧
          (0 < s.applied → s'.applied = 0 → ∀ o ∈ s'.catalog, o.name ∉ bare)) ∧
        (¬ Undoes c s n → command available s (.down n) = none) := by
  intro s
  have h : Migrated c s := migrated_commands hc (migrated_start hc) cs
  refine ⟨h.others, h.bare, h.used, fun n => ⟨fun hx => ?_, (up_spec hc n h).2⟩,
    fun n => ⟨fun hd => ?_, (down_spec hc n h).2⟩⟩
  · obtain ⟨s', hs, ha, -⟩ := (up_spec hc n h).1 hx
    exact ⟨s', hs, ha⟩
  · obtain ⟨s', hs, ha, -, hclear⟩ := (down_spec hc n h).1 hd
    exact ⟨s', hs, ha, hclear⟩

/-- A database that has PostGIS, and a table of another program with a column of its types. -/
def surveyed : List Obj := [extension .postgis, ⟨.other "parcels", [], [(.column "outline", .extension .postgis)]⟩]

theorem surveyed_fits : Fits surveyed := by
  constructor
  · unfold Closed
    decide
  · decide

/-- A server that can bring in `uuid-ossp` only. -/
def uuidOnly : Available := fun e => e = .uuidOssp

theorem migrations_run_surveyed : command uuidOnly (commands uuidOnly ⟨0, surveyed⟩ [.up 2]) (.down 2) = none := by
  obtain ⟨-, -, -, -, hdown⟩ := migrations_run uuidOnly surveyed surveyed_fits [.up 2]
  exact (hdown 2).2 (by unfold Undoes; decide +kernel)

end StayApi.Migrations
