import StayApi.RelationalSound

/-!
# The schema of the database

`01_public_schema.sql` and `02_security_log.sql`: the tables with their keys,
references, `UNIQUE` and `CHECK` constraints. A table's `NOT NULL` columns are
listed where a key, a reference or another constraint is about them too.
-/

namespace StayApi.PublicSchema

open Relational

inductive TableName where
  | users
  | userProfiles
  | userRoles
  | userSettings
  | emailVerifications
  | phoneVerifications
  | properties
  | propertyAmenities
  | propertyMedia
  | propertyPricing
  | propertyAvailability
  | propertyPolicies
  | bookings
  | bookingPriceBreakdown
  | paymentOutbox
  | payments
  | paymentMethods
  | hostPayouts
  | coupons
  | couponUsage
  | reviews
  | reviewResponses
  | conversations
  | messages
  | wishlists
  | wishlistItems
  | notifications
  | adminActions
  | securityLogs
  deriving DecidableEq

inductive Column where
  | id
  | email
  | oauthProvider
  | oauthProviderId
  | userId
  | role
  | grantedBy
  | token
  | hostId
  | approvedBy
  | propertyId
  | amenityType
  | date
  | guestId
  | checkInDate
  | checkOutDate
  | bookingId
  | idempotencyKey
  | code
  | createdBy
  | couponId
  | reviewerId
  | revieweeId
  | overallRating
  | cleanlinessRating
  | accuracyRating
  | communicationRating
  | locationRating
  | checkinRating
  | valueRating
  | moderatedBy
  | reviewId
  | conversationId
  | senderId
  | wishlistId
  | relatedBookingId
  | relatedMessageId
  | relatedReviewId
  | adminId
  deriving DecidableEq

inductive Value where
  | uuid (n : Nat)
  | text (s : String)
  | date (day : Int)
  | int (n : Int)
  deriving DecidableEq

/-- `a > b` for dates. A `CHECK` on a null passes. -/
def later : Option Value → Option Value → Bool
  | some (.date a), some (.date b) => a > b
  | none, _ => true
  | _, none => true
  | _, _ => false

/-- `CHECK (rating BETWEEN 1 AND 5)`. -/
def betweenOneAndFive : Option Value → Bool
  | some (.int n) => 1 ≤ n && n ≤ 5
  | none => true
  | _ => false

abbrev Constraints : Type := Table TableName Column Value

/-- A table with `id UUID PRIMARY KEY`. -/
def keyedById (notNull : List Column) (unique : List (List Column)) (foreignKeys : List (ForeignKey TableName Column))
    (check : (Column → Option Value) → Bool) : Constraints where
  key := .id
  notNull := .id :: notNull
  unique := [.id] :: unique
  foreignKeys := foreignKeys
  check := check
  key_notNull := List.mem_cons_self

/-- A table with `user_id UUID PRIMARY KEY REFERENCES users(id) ON DELETE CASCADE`. -/
def keyedByUser : Constraints where
  key := .userId
  notNull := [.userId]
  unique := [[.userId]]
  foreignKeys := [⟨.userId, .users, .cascade⟩]
  check _ := true
  key_notNull := List.mem_cons_self

def unchecked (_ : Column → Option Value) : Bool := true

def checkDates (cols : Column → Option Value) : Bool := later (cols .checkOutDate) (cols .checkInDate)

def checkRatings (cols : Column → Option Value) : Bool :=
  [Column.overallRating, .cleanlinessRating, .accuracyRating, .communicationRating, .locationRating, .checkinRating,
    .valueRating].all fun c => betweenOneAndFive (cols c)

/-- A table whose rows belong to a property: they go with it. -/
def ofProperty (notNull : List Column) (unique : List (List Column)) : Constraints :=
  keyedById (.propertyId :: notNull) unique [⟨.propertyId, .properties, .cascade⟩] unchecked

def createTable : TableName → Constraints
  | .users => keyedById [.email] [[.email], [.oauthProvider, .oauthProviderId]] [] unchecked
  | .userProfiles => keyedByUser
  | .userRoles =>
    keyedById [.userId, .role] [[.userId, .role]]
      [⟨.userId, .users, .cascade⟩, ⟨.grantedBy, .users, .noAction⟩] unchecked
  | .userSettings => keyedByUser
  | .emailVerifications => keyedById [.userId, .email, .token] [[.token]] [⟨.userId, .users, .cascade⟩] unchecked
  | .phoneVerifications => keyedById [.userId] [] [⟨.userId, .users, .cascade⟩] unchecked
  | .properties =>
    keyedById [.hostId] [] [⟨.hostId, .users, .cascade⟩, ⟨.approvedBy, .users, .noAction⟩] unchecked
  | .propertyAmenities => ofProperty [.amenityType] [[.propertyId, .amenityType]]
  | .propertyMedia => ofProperty [] []
  | .propertyPricing => ofProperty [] [[.propertyId]]
  | .propertyAvailability => ofProperty [.date] [[.propertyId, .date]]
  | .propertyPolicies => ofProperty [] [[.propertyId]]
  | .bookings =>
    keyedById [.propertyId, .guestId, .checkInDate, .checkOutDate] []
      [⟨.propertyId, .properties, .noAction⟩, ⟨.guestId, .users, .noAction⟩] checkDates
  | .bookingPriceBreakdown => keyedById [.bookingId] [[.bookingId]] [⟨.bookingId, .bookings, .cascade⟩] unchecked
  | .paymentOutbox =>
    keyedById [.bookingId, .userId, .idempotencyKey] [[.idempotencyKey]]
      [⟨.bookingId, .bookings, .noAction⟩, ⟨.userId, .users, .noAction⟩] unchecked
  | .payments =>
    keyedById [.bookingId, .userId] [] [⟨.bookingId, .bookings, .noAction⟩, ⟨.userId, .users, .noAction⟩] unchecked
  | .paymentMethods => keyedById [.userId] [] [⟨.userId, .users, .cascade⟩] unchecked
  | .hostPayouts =>
    keyedById [.hostId, .bookingId] [] [⟨.hostId, .users, .noAction⟩, ⟨.bookingId, .bookings, .noAction⟩] unchecked
  | .coupons => keyedById [.code] [[.code]] [⟨.createdBy, .users, .noAction⟩] unchecked
  | .couponUsage =>
    keyedById [.couponId, .userId, .bookingId] []
      [⟨.couponId, .coupons, .noAction⟩, ⟨.userId, .users, .noAction⟩, ⟨.bookingId, .bookings, .noAction⟩] unchecked
  | .reviews =>
    keyedById [.bookingId, .reviewerId, .revieweeId, .overallRating] [[.bookingId, .reviewerId]]
      [⟨.bookingId, .bookings, .noAction⟩, ⟨.reviewerId, .users, .noAction⟩, ⟨.revieweeId, .users, .noAction⟩,
        ⟨.propertyId, .properties, .noAction⟩, ⟨.moderatedBy, .users, .noAction⟩] checkRatings
  | .reviewResponses => keyedById [.reviewId] [[.reviewId]] [⟨.reviewId, .reviews, .cascade⟩] unchecked
  | .conversations =>
    keyedById [.guestId, .hostId] [[.bookingId]]
      [⟨.bookingId, .bookings, .noAction⟩, ⟨.guestId, .users, .noAction⟩, ⟨.hostId, .users, .noAction⟩,
        ⟨.propertyId, .properties, .noAction⟩] unchecked
  | .messages =>
    keyedById [.conversationId, .senderId] []
      [⟨.conversationId, .conversations, .cascade⟩, ⟨.senderId, .users, .noAction⟩] unchecked
  | .wishlists => keyedById [.userId] [] [⟨.userId, .users, .cascade⟩] unchecked
  | .wishlistItems =>
    keyedById [.wishlistId, .propertyId] [[.wishlistId, .propertyId]]
      [⟨.wishlistId, .wishlists, .cascade⟩, ⟨.propertyId, .properties, .cascade⟩] unchecked
  | .notifications =>
    keyedById [.userId] []
      [⟨.userId, .users, .cascade⟩, ⟨.relatedBookingId, .bookings, .noAction⟩,
        ⟨.relatedMessageId, .messages, .noAction⟩, ⟨.relatedReviewId, .reviews, .noAction⟩] unchecked
  | .adminActions => keyedById [.adminId] [] [⟨.adminId, .users, .noAction⟩] unchecked
  | .securityLogs => keyedById [] [] [⟨.userId, .users, .setNull⟩] unchecked

def schema : Schema TableName Column Value where
  table := createTable
  tables := [.users, .userProfiles, .userRoles, .userSettings, .emailVerifications, .phoneVerifications, .properties,
    .propertyAmenities, .propertyMedia, .propertyPricing, .propertyAvailability, .propertyPolicies, .bookings,
    .bookingPriceBreakdown, .paymentOutbox, .payments, .paymentMethods, .hostPayouts, .coupons, .couponUsage, .reviews,
    .reviewResponses, .conversations, .messages, .wishlists, .wishlistItems, .notifications, .adminActions, .securityLogs]
  complete t := by cases t <;> decide
  columns_nodup t := by cases t <;> decide
  setNull_key t := by cases t <;> decide

@[simp]
theorem schema_table (t : TableName) : schema.table t = createTable t := rfl

section
variable {δ : Type}

abbrev Record (δ : Type) : Type := Row TableName Column Value δ

abbrev Sql (δ : Type) : Type := Statement TableName Column Value δ

/-! ## Where a row may be lost -/

/-- The tables whose rows take rows of `t` along. -/
def cascadesInto (t : TableName) : List TableName :=
  (schema t).foreignKeys.filterMap fun fk => if fk.onDelete = .cascade then some fk.target else none

/-- The table itself and all from which a cascade leads to it: none is longer than two. -/
def ancestors (t : TableName) : List TableName :=
  t :: cascadesInto t ++ (cascadesInto t).flatMap cascadesInto

theorem ancestors_upstream (t : TableName) : Upstream schema (ancestors t) := by
  unfold Upstream
  cases t <;> decide

theorem setNull_only {t : TableName} {fk : ForeignKey TableName Column} (hfk : fk ∈ (schema t).foreignKeys)
    (ha : fk.onDelete = .setNull) : t = .securityLogs ∧ fk.column = .userId := by
  have h : ∀ t, ∀ fk ∈ (schema t).foreignKeys, fk.onDelete = .setNull → t = .securityLogs ∧ fk.column = .userId := by
    intro t
    cases t <;> decide
  exact h t fk hfk ha

/-- A row outlasts every run of statements that deletes from no table that cascades
into its own and does not update its own; a security log may lose its user. -/
theorem rows_retained {db : List (Record δ)} (h : Sound schema db) {r : Record δ} (hr : r ∈ db) {ss : List (Sql δ)}
    (hss : ∀ s ∈ ss, s.spares (ancestors r.table) r.table = true) :
    ∃ r' ∈ execAll schema db ss, r'.table = r.table ∧ r'.data = r.data ∧
      ∀ c, r'.cols c = r.cols c ∨ (r.table = .securityLogs ∧ c = .userId ∧ r'.cols c = none) := by
  obtain ⟨r', hr', hk⟩ := execAll_keeps h (ancestors_upstream r.table) hss hr List.mem_cons_self
  refine ⟨r', hr', hk.table, hk.data, ?_⟩
  intro c
  rcases hk.cols c with hc | ⟨hc, fk, hfk, hcol, ha⟩
  · exact .inl hc
  · obtain ⟨ht, hu⟩ := setNull_only hfk ha
    exact .inr ⟨ht, hcol.symm.trans hu, hc⟩

end

def record (t : TableName) (cols : List (Column × Value)) : Record Unit := ⟨t, fun c => cols.lookup c, ()⟩

/-- A host, a guest with a log-in on record, and a stay that the guest has paid for. -/
def stay : List (Record Unit) :=
  [record .users [(.id, .uuid 1), (.email, .text "host")],
    record .users [(.id, .uuid 2), (.email, .text "guest")],
    record .properties [(.id, .uuid 3), (.hostId, .uuid 1)],
    record .bookings [(.id, .uuid 4), (.propertyId, .uuid 3), (.guestId, .uuid 2), (.checkInDate, .date 10),
      (.checkOutDate, .date 12)],
    record .payments [(.id, .uuid 5), (.bookingId, .uuid 4), (.userId, .uuid 2)]]

theorem stay_built : execAll schema [] (stay.map Statement.insert) = stay := rfl

theorem sound_stay : Sound schema stay := stay_built ▸ sound_execAll sound_empty _

def purge : List (Sql Unit) := [.delete .users fun _ => true, .delete .properties fun _ => true]

theorem rows_retained_stay :
    ∃ r' ∈ execAll schema stay purge, r'.table = .payments ∧ r'.cols .userId = some (.uuid 2) := by
  obtain ⟨r', hr', ht, -, hc⟩ := rows_retained sound_stay
    (r := record .payments [(.id, .uuid 5), (.bookingId, .uuid 4), (.userId, .uuid 2)]) (by simp [stay])
    (show ∀ s ∈ purge, s.spares (ancestors .payments) .payments = true by decide)
  refine ⟨r', hr', ht, ?_⟩
  rcases hc .userId with h | ⟨h, -⟩
  · exact h
  · cases h

end StayApi.PublicSchema
