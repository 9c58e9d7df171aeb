import StayApi.LogBounds

/-!
# What becomes of one entry

An entry at the end of a batch longer than `BUFFER_SIZE` is cut off when the
batch is rejected, an error as well as any other. Nothing else loses an entry.
-/

namespace StayApi

open LoggingService

section
variable {x y : Multiset LogEntry} {e : LogEntry}

theorem mem_apart (h : ((x + y).map LogEntry.ref).Nodup) (he : e ∈ x + y) : e ∈ x ↔ e ∉ y := by
  rw [Multiset.map_add, Multiset.nodup_add] at h
  constructor
  · intro hx hy
    exact Multiset.disjoint_left.mp h.2.2 (Multiset.mem_map_of_mem _ hx) (Multiset.mem_map_of_mem _ hy)
  · intro hy
    rcases Multiset.mem_add.mp he with he | he
    · exact he
    · exact absurd he hy

end

/-- **Where an entry is.** If a rejected `insertMany` stores nothing, an accepted
entry is stored, in the buffer or in a pending batch from then on, exactly as
long as no rejected batch that is put back has it behind the first
`BUFFER_SIZE`. -/
theorem entry_kept_iff (es es' : List LogEvent) (data : ApplicationLog) (now : Nat) (w w' : LogWorld)
    (hk : Along logStep (fun _ e => allOrNothing e) LogWorld.start (es ++ .applicationLog data now :: es'))
    (h : run logStep LogWorld.start es = some w) (h' : run logStep w (.applicationLog data now :: es') = some w') :
    (logEntry w.service.built data now ∈ w'.collection ∨ logEntry w.service.built data now ∈ w'.logs ∨
        logEntry w.service.built data now ∈ w'.pending) ↔
      Along logStep (fun w₁ e => logEntry w.service.built data now ∉ discardedBy w₁ e) w
        (.applicationLog data now :: es') := by
  have hrun : run logStep LogWorld.start (es ++ .applicationLog data now :: es') = some w' :=
    run_append.mpr ⟨w, h, h'⟩
  obtain ⟨m, hm_ok, hm, rfl⟩ := logMirror_run ((along_append h).mp hk).1 h
  obtain ⟨m', hm_ok', hm', rfl⟩ := logMirror_run hk hrun
  obtain ⟨hbefore, hfresh⟩ := ledger hm_ok hm
  obtain ⟨htotal, hfresh'⟩ := ledger hm_ok' hm'
  generalize he : logEntry m.world.service.built data now = entry
  -- the entry is new: no batch was cut of it before
  have hnew : entry ∉ discarded es := by
    intro hd
    have hlt := hfresh.2 entry (hbefore ▸ Multiset.mem_add.mpr (.inr hd))
    have hbuilt : entry.ref = m.service.built := by rw [← he]; rfl
    omega
  have haccepted : entry ∈ m'.total id + discarded (es ++ .applicationLog data now :: es') := by
    rw [← htotal]
    unfold accepted
    rw [gather_append h]
    apply Multiset.mem_add.mpr
    right
    obtain ⟨w₁, hs, -⟩ := run_cons h'
    simp only [gather, hs]
    apply Multiset.mem_add.mpr
    left
    exact Multiset.mem_singleton.mpr he.symm
  have hapart := mem_apart (htotal ▸ hfresh'.1) haccepted
  have hcut : entry ∉ discarded (es ++ .applicationLog data now :: es') ↔
      Along logStep (fun w₁ e => entry ∉ discardedBy w₁ e) m.world (.applicationLog data now :: es') := by
    rw [← notMem_gather h']
    unfold discarded
    rw [gather_append h, Multiset.mem_add, not_or]
    exact ⟨fun hn => hn.2, fun hn => ⟨hnew, hn⟩⟩
  rw [← hcut, ← hapart, total_world, Multiset.mem_add, Multiset.mem_add, or_assoc]
  exact or_congr Iff.rfl or_comm

def rejectedRun : List LogEvent := [.exec 0 (.failure [] ⟨"timeout"⟩), .resume 0]

/-- An error whose first insert times out is put back. -/
theorem entry_kept_rejected :
    ∃ w, run logStep LogWorld.start (.applicationLog (errorLog "down") 0 :: rejectedRun) = some w ∧
      (logEntry 0 (errorLog "down") 0 ∈ w.collection ∨ logEntry 0 (errorLog "down") 0 ∈ w.logs ∨
        logEntry 0 (errorLog "down") 0 ∈ w.pending) := by
  refine ⟨_, rfl, ?_⟩
  have huncut : Along logStep (fun w e => (discardedBy w e).card = 0) LogWorld.start
      (.applicationLog (errorLog "down") 0 :: rejectedRun) := by decide
  apply (entry_kept_iff [] rejectedRun (errorLog "down") 0 LogWorld.start _ (by decide) rfl rfl).mpr
  apply along_mono _ huncut
  intro w e hcard
  rw [Multiset.card_eq_zero.mp hcard]
  exact Multiset.notMem_zero _

def lostRun : List LogEvent := filledRun ++ .applicationLog (errorLog "down") 0 :: rejectedRun

theorem filled_built : (run logStep LogWorld.start filledRun).map (fun w => w.service.built) = some BUFFER_SIZE := by
  decide +kernel

theorem lost_refs :
    (run logStep LogWorld.start lostRun).map (fun w => (w.process.issued.length, w.process.replied.length,
        w.collection.map LogEntry.ref, w.logs.map LogEntry.ref)) = some (0, 0, [], List.range BUFFER_SIZE) := by
  decide +kernel

theorem lost_allOrNothing : Along logStep (fun _ e => allOrNothing e) LogWorld.start lostRun := by
  decide +kernel

/-- The error is logged behind a full buffer, and its batch is rejected. -/
theorem error_discarded :
    ∃ w w', run logStep LogWorld.start filledRun = some w ∧
      run logStep w (.applicationLog (errorLog "down") 0 :: rejectedRun) = some w' ∧
      Along logStep (fun _ e => allOrNothing e) LogWorld.start
        (filledRun ++ .applicationLog (errorLog "down") 0 :: rejectedRun) ∧
      w'.process.idle ∧ logEntry w.service.built (errorLog "down") 0 ∉ w'.collection ∧
      logEntry w.service.built (errorLog "down") 0 ∉ w'.logs ∧
      logEntry w.service.built (errorLog "down") 0 ∉ w'.pending := by
  obtain ⟨w', hr, hw'⟩ := Option.map_eq_some_iff.mp lost_refs
  obtain ⟨w, h, h'⟩ := run_append.mp hr
  obtain ⟨v, hv, hbuilt⟩ := Option.map_eq_some_iff.mp filled_built
  obtain rfl : w = v := Option.some.inj (h.symm.trans hv)
  simp only [Prod.mk.injEq, List.length_eq_zero_iff, List.map_eq_nil_iff] at hw'
  obtain ⟨hissued, hreplied, hcollection, hlogs⟩ := hw'
  refine ⟨w, w', h, h', lost_allOrNothing, ⟨hissued, hreplied⟩, ?_, ?_, ?_⟩
  · rw [hcollection]
    exact List.not_mem_nil
  · intro hmem
    have href : w.service.built ∈ w'.logs.map LogEntry.ref := List.mem_map_of_mem hmem
    rw [hlogs, hbuilt, List.mem_range] at href
    exact Nat.lt_irrefl _ href
  · unfold LogWorld.pending
    rw [hissued, hreplied]
    exact Multiset.notMem_zero _

end StayApi
