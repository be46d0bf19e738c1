import DistributedSched.Service.Connect

/-!
# Connect — the sessions of a connect object

`SessionsOf callerInfo l` is what the list of sessions of a connect object looks like: it is
not empty, its sessions are with different devices and were made by `callerInfo`, and the
elements of each are there once.  Adding an element keeps it (`SessionsOf.add`), and so does
taking out the session of a device, unless that leaves no session (`SessionsOf.eraseP`).
-/

namespace DistributedSched

namespace ConnectAbilitySession

variable {element : ElementName} {session : ConnectAbilitySession}

@[simp] theorem destinationDeviceId_addElement :
    (session.addElement element).destinationDeviceId = session.destinationDeviceId := by
  unfold addElement; split <;> rfl

@[simp] theorem callerInfo_addElement :
    (session.addElement element).callerInfo = session.callerInfo := by
  unfold addElement; split <;> rfl

@[simp] theorem sourceDeviceId_addElement :
    (session.addElement element).sourceDeviceId = session.sourceDeviceId := by
  unfold addElement; split <;> rfl

theorem mem_elementsList_addElement : element ∈ (session.addElement element).elementsList := by
  unfold addElement
  split
  · assumption
  · simp

theorem nodup_addElement (h : session.elementsList.Nodup) :
    (session.addElement element).elementsList.Nodup := by
  unfold addElement
  split
  · exact h
  · rename_i hne
    refine List.nodup_append'.mpr ⟨h, List.nodup_singleton _, ?_⟩
    exact List.disjoint_singleton.mpr hne

/-- Callers are the same when these four fields are. -/
theorem isSameCaller_self {callerInfo : CallerInfo} (h : session.callerInfo = callerInfo) :
    session.isSameCaller callerInfo = true := by
  simp [isSameCaller, h]

variable {localDeviceId remoteDeviceId : String} {callerInfo : CallerInfo}
  {targetComponent : TargetComponent} {l : List ConnectAbilitySession}

theorem addToSessions_ne_nil :
    addToSessions localDeviceId remoteDeviceId element callerInfo targetComponent l ≠ [] := by
  cases l with
  | nil => simp [addToSessions]
  | cons session l =>
      rw [addToSessions]
      split <;> simp

theorem map_destinationDeviceId_addToSessions :
    (addToSessions localDeviceId remoteDeviceId element callerInfo targetComponent l).map
        (·.destinationDeviceId) =
      if remoteDeviceId ∈ l.map (·.destinationDeviceId) then l.map (·.destinationDeviceId)
      else l.map (·.destinationDeviceId) ++ [remoteDeviceId] := by
  induction l with
  | nil => simp [addToSessions]
  | cons session l ih =>
      rw [addToSessions]
      by_cases h : remoteDeviceId = session.destinationDeviceId
      · simp [h]
      · rw [if_neg h, List.map_cons, ih]
        by_cases hm : remoteDeviceId ∈ l.map (·.destinationDeviceId)
        · rw [if_pos hm, if_pos (by rw [List.map_cons]; exact List.mem_cons_of_mem _ hm),
            List.map_cons]
        · rw [if_neg hm, if_neg, List.map_cons, List.cons_append]
          rw [List.map_cons, List.mem_cons, not_or]
          exact ⟨h, hm⟩

/-- A session of the new list is an old one, an old one with the element, or the new one. -/
theorem mem_addToSessions
    (h : session ∈ addToSessions localDeviceId remoteDeviceId element callerInfo
      targetComponent l) :
    session ∈ l ∨ (∃ old ∈ l, session = old.addElement element) ∨
      session = addElement ⟨localDeviceId, remoteDeviceId, callerInfo, targetComponent, []⟩
        element := by
  induction l with
  | nil => exact .inr (.inr (List.mem_singleton.mp h))
  | cons first l ih =>
      rw [addToSessions] at h
      split at h
      · rcases List.mem_cons.mp h with rfl | h
        · exact .inr (.inl ⟨first, List.mem_cons_self, rfl⟩)
        · exact .inl (List.mem_cons_of_mem _ h)
      · rcases List.mem_cons.mp h with rfl | h
        · exact .inl List.mem_cons_self
        · rcases ih h with h | ⟨old, ho, rfl⟩ | rfl
          · exact .inl (List.mem_cons_of_mem _ h)
          · exact .inr (.inl ⟨old, List.mem_cons_of_mem _ ho, rfl⟩)
          · exact .inr (.inr rfl)

end ConnectAbilitySession

open ConnectAbilitySession

/-- The sessions of a connect object that `callerInfo` owns. -/
structure SessionsOf (callerInfo : CallerInfo) (l : List ConnectAbilitySession) : Prop where
  nonempty : l ≠ []
  devices : (l.map (·.destinationDeviceId)).Nodup
  elements : ∀ session ∈ l, session.elementsList ≠ [] ∧ session.elementsList.Nodup
  caller : ∀ session ∈ l, session.callerInfo = callerInfo

namespace SessionsOf

variable {callerInfo : CallerInfo} {l : List ConnectAbilitySession}
  {localDeviceId remoteDeviceId : String} {element : ElementName}
  {targetComponent : TargetComponent}

/-- The uid of the first session, which the counter goes by, is the caller's. -/
theorem getUidLocked_eq (h : SessionsOf callerInfo l) :
    DistributedSchedService.getUidLocked l = callerInfo.uid := by
  cases l with
  | nil => exact absurd rfl h.nonempty
  | cons session l => exact congrArg CallerInfo.uid (h.caller session List.mem_cons_self)

theorem add (h : l = [] ∨ SessionsOf callerInfo l) :
    SessionsOf callerInfo
      (addToSessions localDeviceId remoteDeviceId element callerInfo targetComponent l) := by
  have hd : (l.map (·.destinationDeviceId)).Nodup := by
    rcases h with rfl | h
    · exact List.nodup_nil
    · exact h.devices
  have he : ∀ session ∈ l, session.elementsList.Nodup ∧ session.elementsList ≠ [] ∧
      session.callerInfo = callerInfo := by
    rcases h with rfl | h
    · intro session hs; cases hs
    · exact fun session hs => ⟨(h.elements session hs).2, (h.elements session hs).1,
        h.caller session hs⟩
  refine ⟨addToSessions_ne_nil, ?_, fun session hs => ?_, fun session hs => ?_⟩
  · rw [map_destinationDeviceId_addToSessions]
    split
    · exact hd
    · rename_i hne
      refine List.nodup_append'.mpr ⟨hd, List.nodup_singleton _, ?_⟩
      exact List.disjoint_singleton.mpr hne
  · rcases mem_addToSessions hs with h | ⟨old, ho, rfl⟩ | rfl
    · exact ⟨(he session h).2.1, (he session h).1⟩
    · exact ⟨List.ne_nil_of_mem mem_elementsList_addElement, nodup_addElement (he old ho).1⟩
    · exact ⟨List.ne_nil_of_mem mem_elementsList_addElement, nodup_addElement List.nodup_nil⟩
  · rcases mem_addToSessions hs with h | ⟨old, ho, rfl⟩ | rfl
    · exact (he session h).2.2
    · rw [callerInfo_addElement]; exact (he old ho).2.2
    · rw [callerInfo_addElement]

theorem eraseP (h : SessionsOf callerInfo l) {p : ConnectAbilitySession → Bool}
    (hne : l.eraseP p ≠ []) : SessionsOf callerInfo (l.eraseP p) where
  nonempty := hne
  devices := h.devices.sublist ((List.eraseP_sublist).map _)
  elements session hs := h.elements session (List.mem_of_mem_eraseP hs)
  caller session hs := h.caller session (List.mem_of_mem_eraseP hs)

/-- The sessions carry the caller's uid and no other. -/
theorem any_uid (h : SessionsOf callerInfo l) (uid : Int) :
    (l.any fun session => session.callerInfo.uid = uid) = decide (callerInfo.uid = uid) := by
  obtain ⟨session, hs⟩ := List.exists_mem_of_ne_nil l h.nonempty
  by_cases hu : callerInfo.uid = uid
  · rw [decide_eq_true hu]
    exact List.any_eq_true.mpr ⟨session, hs, by rw [h.caller session hs]; exact decide_eq_true hu⟩
  · rw [decide_eq_false hu]
    refine List.any_eq_false.mpr fun x hx => ?_
    rw [h.caller x hx]
    simpa using hu

end SessionsOf

end DistributedSched
