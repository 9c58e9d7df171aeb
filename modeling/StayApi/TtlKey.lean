import StayApi.UserStatusMessage

/-!
# TTL keys

`setStatus` writes the key `USER_STATUS_HASH_TTL_KEY + uid`; the expiry handler
reads the uid back as part 4 of the key split at the colons.
-/

namespace StayApi

open UserStatusMessage

theorem ttlKey_toList (u : String) : (ttlKey u).toList =
    "stay".toList ++ ':' :: ("user".toList ++ ':' :: ("status".toList ++ ':' :: ("ttl".toList ++ ':' :: u.toList))) := by
  have hk : USER_STATUS_HASH_TTL_KEY.toList =
      "stay".toList ++ ':' :: ("user".toList ++ ':' :: ("status".toList ++ ':' :: ("ttl".toList ++ [':']))) := by
    decide
  rw [ttlKey, String.toList_append, hk]
  simp only [List.append_assoc, List.cons_append, List.nil_append]

/-- The handler's decoding inverts `setStatus`'s encoding. -/
theorem uidOfKey_ttlKey {u : String} (h : ':' ∉ u.toList) : uidOfKey (ttlKey u) = u := by
  unfold uidOfKey split
  rw [ttlKey_toList, List.splitOn_append_cons_self_of_not_mem (by decide),
    List.splitOn_append_cons_self_of_not_mem (by decide), List.splitOn_append_cons_self_of_not_mem (by decide),
    List.splitOn_append_cons_self_of_not_mem (by decide), List.splitOn_eq_singleton h]
  simp

theorem ttlKey_injective {u v : String} (h : ttlKey u = ttlKey v) : u = v := by
  have := congrArg String.toList h
  rw [ttlKey, ttlKey, String.toList_append, String.toList_append] at this
  exact String.toList_inj.mp (List.append_cancel_left this)

theorem startsWith_ttlKey (u : String) : startsWith (ttlKey u) USER_STATUS_HASH_TTL_KEY = true := by
  unfold startsWith ttlKey
  rw [String.toList_append, List.isPrefixOf_iff_prefix]
  exact List.prefix_append ..

theorem eq_ttlKey {key : String} (h : startsWith key USER_STATUS_HASH_TTL_KEY = true) : ∃ uid, key = ttlKey uid := by
  obtain ⟨l, hl⟩ := List.isPrefixOf_iff_prefix.mp h
  refine ⟨String.ofList l, String.toList_inj.mp ?_⟩
  rw [ttlKey, String.toList_append, String.toList_ofList, hl]

end StayApi
