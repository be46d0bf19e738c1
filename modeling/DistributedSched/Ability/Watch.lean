import DistributedSched.Ability.Notifiers

/-!
# Ability — which notifiers are watched

`RegisterDeviceSelectionCallback` adds the death recipient in one branch only, where the token
has no notifier yet, and `UnregisterDeviceSelectionCallback` removes it for one event type.

* `Watch`: an object is held at one place, and the recipient is registered on it once when it is
  held and else not at all.
* `notifiers_watched`: `Watch` over every run in which a token gets a notifier only while it has
  none, and what the death of a process leaves of its token.
* `second_notifier_unwatched`: a token with notifiers for both event types, from which the
  watched one is taken.
-/

namespace DistributedSched

open Std (ExtTreeMap)

namespace DistributedAbilityManagerService

variable {s : DistributedAbilityManagerService}

/-! ### What a block does to the recipients -/

theorem tally_remove (n : RemoteObject) :
    ∀ (notifiers : List RemoteObject) (recipients : Map RemoteObject Nat),
      ((notifiers.map AbilityEffect.removeDeathRecipient).foldl AbilityEffect.apply
        recipients).tally n = recipients.tally n - notifiers.count n
  | [], recipients => rfl
  | m :: notifiers, recipients => by
      have hd : (recipients.drop m).tally n = recipients.tally n - if m = n then 1 else 0 := by
        rw [ExtTreeMap.tally_drop]
        by_cases hm : m = n
        · subst hm
          simp
        · simp [hm]
      show ((notifiers.map AbilityEffect.removeDeathRecipient).foldl AbilityEffect.apply
        (recipients.drop m)).tally n = _
      rw [tally_remove n notifiers, hd, List.count_cons]
      simp only [beq_iff_eq]
      omega

theorem mem_notifiers {info : NotifierInfo} {n : RemoteObject} :
    n ∈ info.notifierMap.toList.map Prod.snd ↔ ∃ c : String, info.notifierMap[c]? = some n := by
  simp only [List.mem_map, Prod.exists, exists_eq_right,
    ExtTreeMap.mem_toList_iff_getElem?_eq_some]

/-- The recipients that the removal of a token leaves on an object. -/
theorem tally_eraseCallback (token : Int) (recipients : Map RemoteObject Nat) (n : RemoteObject) :
    ∃ k, (((s.eraseCallback token).2).foldl AbilityEffect.apply recipients).tally n =
        recipients.tally n - k ∧ (0 < k ↔ ∃ c, s.Holds token c n) := by
  unfold eraseCallback
  split
  · rename_i info hi
    refine ⟨(info.notifierMap.toList.map Prod.snd).count n, ?_, ?_⟩
    · rw [← tally_remove, List.map_map]
      rfl
    · rw [List.count_pos_iff, mem_notifiers]
      simp [Holds, hi]
  · rename_i hn
    refine ⟨0, rfl, iff_of_false (Nat.lt_irrefl 0) ?_⟩
    rintro ⟨c, info, hi, -⟩
    exact hn info hi

theorem deleteNotifier_effects {token : Int} {cbType : String} {notifier : RemoteObject}
    {r : DistributedAbilityManagerService × List AbilityEffect}
    (hr : s.deleteNotifier token cbType = some r) (hc : isCallbackType cbType = true)
    (hh : s.Holds token cbType notifier) : r.2 = [.removeDeathRecipient notifier] := by
  have hne : cbType ≠ "" := by
    rintro rfl
    revert hc
    decide
  obtain ⟨info, hi, hn⟩ := hh
  unfold deleteNotifier at hr
  rw [hi] at hr
  cases hr
  simp only [NotifierInfo.removeDeathRecipient, hn, if_neg hne]

theorem holds_of_isNotifierRegisteredLocked {token : Int} {cbType : String}
    (h : s.isNotifierRegisteredLocked token cbType = true) :
    ∃ notifier, s.Holds token cbType notifier := by
  unfold isNotifierRegisteredLocked at h
  split at h
  · rename_i info hi
    obtain ⟨n, hn⟩ := Option.isSome_iff_exists.mp h
    exact ⟨n, info, hi, hn⟩
  · cases h

end DistributedAbilityManagerService

open DistributedAbilityManagerService

namespace AbilityOp

/-- The notifier of a registration is an object of its own: it is not held already. -/
def Distinct (h : AbilityHost) : AbilityOp → Prop
  | registerDeviceSelectionCallback _ _ _ _ notifier =>
    ∀ token cbType, ¬ h.service.Holds token cbType notifier
  | _ => True

/-- A registration that is not refused finds no other notifier of its token. -/
def First (h : AbilityHost) : AbilityOp → Prop
  | registerDeviceSelectionCallback _ accessToken token cbType _ =>
    isCallbackType cbType = true → h.service.isTokenRegistered accessToken token = true →
      h.service.isNotifierRegisteredLocked token cbType = false →
      h.service.callbackMap[token]? = none
  | _ => True

end AbilityOp

namespace AbilityHost

variable {h h' : AbilityHost} {op : AbilityOp}

structure Watch (h : AbilityHost) : Prop where
  noNull : h.service.NoNull
  noEmpty : h.service.NoEmpty
  once : ∀ {t c n t' c'}, h.service.Holds t c n → h.service.Holds t' c' n → t = t' ∧ c = c'
  watched : ∀ {t c n}, h.service.Holds t c n → h.recipients.tally n = 1
  unwatched : ∀ {n}, (∀ t c, ¬ h.service.Holds t c n) → h.recipients.tally n = 0

theorem watch_init (token : Int) : Watch { service := { token := token } } where
  noNull t ht := by simp at ht
  noEmpty a v hv := by simp at hv
  once hh := by
    obtain ⟨info, hi, -⟩ := hh
    simp at hi
  watched hh := by
    obtain ⟨info, hi, -⟩ := hh
    simp at hi
  unwatched _ := rfl

theorem Watch.removed (hw : Watch h) (token : Int) :
    Watch (h.leave (h.service.removed token) (h.service.eraseCallback token).2) := by
  have ht : ∀ n, ∃ k, (h.leave (h.service.removed token)
      (h.service.eraseCallback token).2).recipients.tally n = h.recipients.tally n - k ∧
      (0 < k ↔ ∃ c, h.service.Holds token c n) :=
    fun n => tally_eraseCallback token h.recipients n
  refine ⟨hw.noNull.removed token, hw.noEmpty.removed token, fun hh hh' => ?_,
    fun {t c n} hh => ?_, fun {n} hno => ?_⟩
  · exact hw.once (holds_removed.mp hh).1 (holds_removed.mp hh').1
  · obtain ⟨hh, hne⟩ := holds_removed.mp hh
    obtain ⟨k, hk, hpos⟩ := ht n
    have hz : ¬ 0 < k := fun hp => by
      obtain ⟨c', hh'⟩ := hpos.mp hp
      exact hne (hw.once hh hh').1
    rw [hk, hw.watched hh]
    omega
  · obtain ⟨k, hk, hpos⟩ := ht n
    rw [hk]
    by_cases hh : ∃ c, h.service.Holds token c n
    · have := hpos.mpr hh
      obtain ⟨c, hh⟩ := hh
      rw [hw.watched hh]
      omega
    · have hz : h.recipients.tally n = 0 := hw.unwatched fun t c hc => by
        by_cases he : t = token
        · exact hh ⟨c, he ▸ hc⟩
        · exact hno t c (holds_removed.mpr ⟨hc, he⟩)
      omega

/-- The first notifier of a token gets the recipient. -/
theorem Watch.set_first (hw : Watch h) {token : Int} {notifier : RemoteObject}
    (hfirst : h.service.callbackMap[token]? = none)
    (hnew : ∀ t c, ¬ h.service.Holds t c notifier) (cbType : String) (errNullObject : Int) :
    Watch (h.leave (h.service.setNotifier token cbType notifier errNullObject).service
      (h.service.setNotifier token cbType notifier errNullObject).effects) := by
  rw [setNotifier_first hfirst]
  have hholds : ∀ {t c n}, (Holds _ t c n) ↔ _ := fun {t c n} =>
    @holds_set_first h.service token t cbType c notifier n hfirst
  have ht : ∀ n, (h.recipients.bump notifier).tally n =
      if notifier = n then h.recipients.tally notifier + 1 else h.recipients.tally n :=
    fun n => ExtTreeMap.tally_bump _ notifier n
  refine ⟨hw.noNull.insert token _, hw.noEmpty, fun {t c n t' c'} hh hh' => ?_,
    fun {t c n} hh => ?_, fun {n} hno => ?_⟩
  · rcases hholds.mp hh with ho | ⟨ht, hc, he⟩ <;> rcases hholds.mp hh' with ho' | ⟨ht', hc', he'⟩
    · exact hw.once ho ho'
    · exact absurd (he' ▸ ho) (hnew t c)
    · exact absurd (he ▸ ho') (hnew t' c')
    · exact ⟨ht.trans ht'.symm, hc.trans hc'.symm⟩
  · show (h.recipients.bump notifier).tally n = 1
    rw [ht]
    rcases hholds.mp hh with hh | ⟨rfl, rfl, rfl⟩
    · rw [if_neg, hw.watched hh]
      rintro rfl
      exact hnew t c hh
    · rw [if_pos rfl, hw.unwatched hnew]
  · show (h.recipients.bump notifier).tally n = 0
    have hne : notifier ≠ n := by
      rintro rfl
      exact hno token cbType (hholds.mpr (.inr ⟨rfl, rfl, rfl⟩))
    rw [ht, if_neg hne]
    exact hw.unwatched fun t c hh => hno t c (hholds.mpr (.inl hh))

/-- The notifier that is taken loses the recipient. -/
theorem Watch.delete (hw : Watch h) {token : Int} {cbType : String}
    {r : DistributedAbilityManagerService × List AbilityEffect} (hc : isCallbackType cbType = true)
    (hn : h.service.isNotifierRegisteredLocked token cbType = true)
    (hr : h.service.deleteNotifier token cbType = some r) : Watch (h.leave r.1 r.2) := by
  obtain ⟨notifier, hheld⟩ := holds_of_isNotifierRegisteredLocked hn
  have ht : ∀ n, (h.recipients.drop notifier).tally n =
      if notifier = n then h.recipients.tally notifier - 1 else h.recipients.tally n :=
    fun n => ExtTreeMap.tally_drop _ notifier n
  have hrec : (h.leave r.1 r.2).recipients = h.recipients.drop notifier := by
    show r.2.foldl AbilityEffect.apply h.recipients = _
    rw [deleteNotifier_effects hr hc hheld]
    rfl
  refine ⟨hw.noNull.delete hr, ?_, fun hh hh' => ?_, fun {t c n} hh => ?_, fun {n} hno => ?_⟩
  · show r.1.NoEmpty
    rw [NoEmpty, deleteNotifier_tokenMap hr]
    exact hw.noEmpty
  · exact hw.once ((holds_delete hr).mp hh).1 ((holds_delete hr).mp hh').1
  · obtain ⟨hh, hne⟩ := (holds_delete hr).mp hh
    rw [hrec, ht, if_neg, hw.watched hh]
    rintro rfl
    exact hne (hw.once hh hheld)
  · rw [hrec, ht]
    split
    · rw [hw.watched hheld]
    · rename_i hne
      refine hw.unwatched fun t c hh => hno t c ((holds_delete hr).mpr ⟨hh, ?_⟩)
      rintro ⟨rfl, rfl⟩
      obtain ⟨info, hi, hg⟩ := hheld
      obtain ⟨info', hi', hg'⟩ := hh
      obtain rfl : info = info' := by simpa using hi.symm.trans hi'
      exact hne (by simpa using hg.symm.trans hg')

theorem watch_step (hw : Watch h) (hd : op.Distinct h) (hf : op.First h)
    (hs : AbilityStep h op h') : Watch h' := by
  cases hs with
  | refused => exact hw
  | register continuationMode accessToken hok hex =>
      exact ⟨hw.noNull, NoEmpty.emplaceToken (s := h.service.storeToken) hw.noEmpty _ _, hw.once,
        hw.watched, hw.unwatched⟩
  | unregister postTask accessToken token ht => exact hw.removed token
  | notifierDied postTask notifier token hq => exact hw.removed token
  | set errNullObject accessToken token cbType notifier hc ht hn =>
      exact hw.set_first (hf hc ht hn) hd cbType errNullObject
  | delete accessToken token cbType r hc _ hn hr => exact hw.delete hc hn hr

theorem watch_of_reach {token : Int} (hr : Runs.Reach AbilityOp.apply
    (fun h op => op.Distinct h ∧ op.First h) { service := { token := token } } h) : Watch h :=
  hr.invariant (P := Watch) (watch_init token) fun _ _ _ hw hok hs =>
    watch_step hw hok.1 hok.2 (step_of_apply hs)

/-! ### The tasks of dead notifiers -/

theorem runNotifierDied_fst (s : DistributedAbilityManagerService) (postTask : Bool)
    (notifier : RemoteObject) :
    (s.runNotifierDied postTask notifier).1 =
      match s.queryTokenByNotifier notifier with
      | none => s
      | some token => s.removed token := by
  unfold runNotifierDied
  cases s.queryTokenByNotifier notifier <;> rfl

/-- The tasks of the notifiers, one after another. -/
theorem tasks_remove (postTask : Bool) {token : Int} : ∀ (tasks : List RemoteObject)
    {h : AbilityHost}, Watch h → h.service.InOneVector token →
    (h.service.Gone token ∨
      ∃ cbType, ∃ notifier ∈ tasks, h.service.Holds token cbType notifier) →
    ∃ h', Runs.exec AbilityOp.apply h (tasks.map (.notifierDied postTask)) = some h' ∧
      h'.service.Gone token
  | [], h, _, _, hg => by
      rcases hg with hg | ⟨_, _, hm, _⟩
      · exact ⟨h, rfl, hg⟩
      · cases hm
  | m :: tasks, h, hw, hone, hg => by
      have hs : AbilityStep h (.notifierDied postTask m) _ := step_of_apply rfl
      have hw' := watch_step hw (show AbilityOp.Distinct h (.notifierDied postTask m) from trivial)
        trivial hs
      have hservice := runNotifierDied_fst h.service postTask m
      refine tasks_remove postTask tasks hw' ?_ ?_ <;>
        simp only [leave, hservice]
      · cases h.service.queryTokenByNotifier m with
        | none => exact hone
        | some t => exact hone.removed hw.noEmpty t
      · rcases hg with hg | ⟨cbType, notifier, hm, hh⟩
        · cases h.service.queryTokenByNotifier m with
          | none => exact .inl hg
          | some t => exact .inl (hg.removed hw.noEmpty t)
        · cases hq : h.service.queryTokenByNotifier m with
          | none =>
              rcases List.mem_cons.mp hm with rfl | hm
              · exact absurd hq (query_of_holds hw.noNull.all_isSome hh)
              · exact .inr ⟨cbType, notifier, hm, hh⟩
          | some t =>
              by_cases ht : t = token
              · subst ht
                exact .inl (gone_removed hw.noNull hw.noEmpty hone)
              · rcases List.mem_cons.mp hm with rfl | hm
                · obtain ⟨c, hc⟩ := holds_of_query hq
                  exact absurd (hw.once hc hh).1 ht
                · exact .inr ⟨cbType, notifier, hm, holds_removed.mpr ⟨hh, Ne.symm ht⟩⟩

/-- A registration beside another notifier leaves its own one unwatched. -/
theorem unwatched_of_not_first (hw : Watch h) (hd : op.Distinct h) (hf : ¬ op.First h)
    (ha : op.apply h = some h') :
    ∃ token cbType notifier, h'.service.Holds token cbType notifier ∧
      h'.recipients.tally notifier = 0 := by
  cases op with
  | registerDeviceSelectionCallback errNullObject accessToken token cbType notifier =>
      cases ha
      obtain ⟨hc, hf⟩ := not_forall.mp hf
      obtain ⟨ht, hf⟩ := not_forall.mp hf
      obtain ⟨hn, hf⟩ := not_forall.mp hf
      obtain ⟨o, ho⟩ := Option.ne_none_iff_exists'.mp hf
      obtain ⟨info, rfl⟩ := Option.ne_none_iff_exists'.mp fun he => hw.noNull token (he ▸ ho)
      have hset : h.service.registerDeviceSelectionCallback errNullObject accessToken token cbType
          notifier = ⟨errOk, { h.service with
            callbackMap := h.service.callbackMap.insert token
              (some (info.setNotifier cbType notifier)) }, []⟩ := by
        simp only [registerDeviceSelectionCallback, hc, ht, hn, setNotifier, ho, Bool.not_true,
          Bool.false_eq_true, if_false]
      rw [hset]
      refine ⟨token, cbType, notifier, ?_, hw.unwatched hd⟩
      refine holds_insert.mpr ?_
      rw [if_pos rfl]
      exact ExtTreeMap.getElem?_insert_self
  | register | unregister | unregisterDeviceSelectionCallback | notifierDied =>
      exact absurd trivial hf

end AbilityHost

/-- **Which notifiers are watched.**  While a token gets a notifier only when it has none, every
notifier that is held has the recipient; when a process dies, the tasks of those of its notifiers
that have it remove the token of any of them, which one application has.  A registration of a
second notifier always ends this. -/
theorem notifiers_watched {token₀ : Int} {h : AbilityHost}
    (hr : Runs.Reach AbilityOp.apply (fun h op => op.Distinct h ∧ op.First h)
      { service := { token := token₀ } } h) :
    (∀ token cbType notifier, h.service.Holds token cbType notifier →
      0 < h.recipients.tally notifier) ∧
    (∀ (postTask : Bool) (token : Int) (died tasks : List RemoteObject),
      h.service.InOneVector token →
      (∃ cbType notifier, h.service.Holds token cbType notifier) →
      (∀ cbType notifier, h.service.Holds token cbType notifier → notifier ∈ died) →
      (∀ notifier, notifier ∈ tasks ↔ notifier ∈ died ∧ 0 < h.recipients.tally notifier) →
      ∃ h', Runs.exec AbilityOp.apply h (tasks.map (.notifierDied postTask)) = some h' ∧
        h'.service.callbackMap[token]? = none ∧ ¬ h'.service.HasToken token) ∧
    ∀ (op : AbilityOp) (h' : AbilityHost), op.Distinct h → ¬ op.First h → op.apply h = some h' →
      ∃ token cbType notifier, h'.service.Holds token cbType notifier ∧
        h'.recipients.tally notifier = 0 := by
  have hw := AbilityHost.watch_of_reach hr
  have hwatched : ∀ token cbType notifier, h.service.Holds token cbType notifier →
      0 < h.recipients.tally notifier := fun _ _ _ hh => by
    rw [hw.watched hh]
    exact Nat.one_pos
  refine ⟨hwatched, fun postTask token died tasks hone hany hdied htasks => ?_,
    fun op h' hd hf ha => AbilityHost.unwatched_of_not_first hw hd hf ha⟩
  obtain ⟨cbType, notifier, hh⟩ := hany
  have hm := (htasks notifier).mpr ⟨hdied cbType notifier hh, hwatched token cbType notifier hh⟩
  exact AbilityHost.tasks_remove postTask tasks hw hone (.inr ⟨cbType, notifier, hm, hh⟩)

/-- A token with one notifier, whose process dies. -/
theorem notifiers_watched_one : ∃ h : AbilityHost, h.service.Holds 1 eventConnect 7 ∧
    0 < h.recipients.tally 7 ∧
    ∃ h', Runs.exec AbilityOp.apply h [.notifierDied true 7] = some h' ∧
      h'.service.callbackMap[(1 : Int)]? = none ∧ ¬ h'.service.HasToken 1 := by
  have hr : Runs.Reach AbilityOp.apply (fun h op => op.Distinct h ∧ op.First h)
      { service := { token := 0 } } _ :=
    .next (.next .init (l := .register none 5) ⟨trivial, trivial⟩ rfl)
      (l := .registerDeviceSelectionCallback 1 5 1 eventConnect 7)
      ⟨fun _ _ hh => query_of_holds rfl hh rfl, fun _ _ _ => rfl⟩ rfl
  have hw := notifiers_watched hr
  have hpos := hw.1 1 eventConnect 7 ⟨_, rfl, rfl⟩
  refine ⟨_, ?_, hpos, hw.2.1 true 1 [7] [7] ?_ ⟨eventConnect, 7, _, rfl, rfl⟩ ?_ ?_⟩
  · exact ⟨_, rfl, rfl⟩
  · intro a b v w hv hw _ _
    have ha := ExtTreeMap.mem_toList_iff_getElem?_eq_some.mpr hv
    have hb := ExtTreeMap.mem_toList_iff_getElem?_eq_some.mpr hw
    obtain ⟨rfl, -⟩ := Prod.mk.inj (List.mem_singleton.mp ha)
    exact (Prod.mk.inj (List.mem_singleton.mp hb)).1.symm
  · intro cbType notifier hh
    obtain ⟨-, rfl⟩ := Prod.mk.inj (List.mem_singleton.mp (holds_iff_mem.mp hh))
    exact List.mem_singleton_self _
  · intro notifier
    refine ⟨fun hm => ⟨hm, ?_⟩, And.left⟩
    obtain rfl := List.mem_singleton.mp hm
    exact hpos

/-- **A second notifier is not watched.**  An application registers for connecting and for
disconnecting, and then no more for connecting: its last notifier has no recipient, so when its
process dies no task comes, and its token stays. -/
theorem second_notifier_unwatched : ∃ h : AbilityHost,
    Runs.Reach AbilityOp.apply (fun h op => op.Distinct h) {} h ∧
    h.service.Holds 1 eventDisconnect 8 ∧
    (∀ cbType notifier, h.service.Holds 1 cbType notifier → notifier = 8) ∧
    h.recipients.tally 8 = 0 ∧ h.service.HasToken 1 := by
  refine ⟨_, .next (.next (.next (.next .init (l := .register none 5) trivial rfl)
    (l := .registerDeviceSelectionCallback 1 5 1 eventConnect 7)
      (fun _ _ hh => query_of_holds rfl hh rfl) rfl)
    (l := .registerDeviceSelectionCallback 1 5 1 eventDisconnect 8)
      (fun _ _ hh => query_of_holds rfl hh rfl) rfl)
    (l := .unregisterDeviceSelectionCallback 5 1 eventConnect) trivial rfl,
    ⟨_, rfl, rfl⟩, fun cbType notifier hh => ?_, rfl, ⟨5, [1], rfl, List.mem_singleton_self _⟩⟩
  exact (Prod.mk.inj (List.mem_singleton.mp (holds_iff_mem.mp hh))).2

end DistributedSched
