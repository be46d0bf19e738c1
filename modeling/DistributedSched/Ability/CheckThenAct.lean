import DistributedSched.Ability.Calls
import DistributedSched.Ability.Notifiers

/-!
# Ability — checks that are old

A call checks the token, then the notifiers, and then acts, under a lock of its own each time.

* `Covered`: an entry of `callbackMap_` will not be left behind; its token is registered and no
  call is on its way to erase it, or a call is still to erase the entry.
* `AbilityMove.Present`, `AbilityMove.Covers`: the two conditions on the state in which a call
  acts.
* `acts_on_present`: over every run whose steps meet them, no null pointer is dereferenced or
  stored, and at the end every entry has its token; a step that does not meet them breaks it.
* `stale_checks`: what a call does that acts after its token was removed.
-/

namespace DistributedSched

open Std (ExtTreeMap)

namespace DistributedAbilityManagerService

variable {s : DistributedAbilityManagerService} {token : Int}

theorem isNotifierRegistered_iff :
    s.isNotifierRegistered token = true ↔ ∃ info, s.callbackMap[token]? = some (some info) := by
  unfold isNotifierRegistered
  split
  · rename_i info hi
    exact iff_of_true rfl ⟨info, hi⟩
  · rename_i hn
    exact iff_of_false Bool.false_ne_true fun ⟨info, hi⟩ => hn info hi

theorem access_of_some {info : NotifierInfo} (h : s.callbackMap[token]? = some (some info)) :
    s.access token = (s, some info) := by
  unfold access
  rw [h]

/-- A null pointer comes out, and is in the map from then on. -/
theorem access_of_not_registered (h : s.isNotifierRegistered token = false) :
    (s.access token).2 = none ∧ (s.access token).1.callbackMap[token]? = some none := by
  unfold access
  cases hc : s.callbackMap[token]? with
  | none => exact ⟨rfl, ExtTreeMap.getElem?_insert_self⟩
  | some o =>
      cases o with
      | none => exact ⟨rfl, hc⟩
      | some info => exact absurd (isNotifierRegistered_iff.mpr ⟨info, hc⟩) (by simp [h])

theorem setConnectStatusInfo_null (h : s.isNotifierRegistered token = false)
    (connectStatusInfo : ConnectStatusInfo) :
    (s.setConnectStatusInfo token connectStatusInfo).2 = none ∧
      (s.setConnectStatusInfo token connectStatusInfo).1.callbackMap[token]? = some none := by
  obtain ⟨hnone, hnull⟩ := access_of_not_registered h
  unfold setConnectStatusInfo
  rcases ha : s.access token with ⟨s', o⟩
  rw [ha] at hnone hnull
  cases hnone
  exact ⟨rfl, hnull⟩

theorem getNotifier_null (h : s.isNotifierRegistered token = false) (cbType : String) :
    (s.getNotifier token cbType).2 = none ∧
      (s.getNotifier token cbType).1.callbackMap[token]? = some none := by
  obtain ⟨hnone, hnull⟩ := access_of_not_registered h
  unfold getNotifier
  rcases ha : s.access token with ⟨s', o⟩
  rw [ha] at hnone hnull
  cases hnone
  exact ⟨rfl, hnull⟩

/-- The task of `HandleStartDeviceManager` looks before it goes through the pointer. -/
theorem getConnectStatusInfo_eq (s : DistributedAbilityManagerService) (token : Int) :
    ∃ connectStatusInfo, s.getConnectStatusInfo token = (s, some connectStatusInfo) := by
  unfold getConnectStatusInfo
  split
  · rename_i h
    obtain ⟨info, hi⟩ := isNotifierRegistered_iff.mp h
    rw [access_of_some hi]
    exact ⟨_, rfl⟩
  · exact ⟨none, rfl⟩

theorem callbackMap_of_delete {cbType : String}
    {r : DistributedAbilityManagerService × List AbilityEffect}
    (hr : s.deleteNotifier token cbType = some r) {t : Int} (h : r.1.callbackMap[t]? ≠ none) :
    s.callbackMap[t]? ≠ none := by
  by_cases ht : t = token
  · subst ht
    unfold deleteNotifier at hr
    split at hr
    · cases hr
      exact h
    · cases hr
    · rename_i info hi
      rw [hi]
      exact Option.some_ne_none _
  · rwa [deleteNotifier_of_ne hr ht] at h

end DistributedAbilityManagerService

open DistributedAbilityManagerService

namespace AbilityCall

/-- The call is about to erase the notifiers of the token. -/
def ErasesCallback (token : Int) : AbilityCall → Prop
  | eraseCallback t _ _ => t = token
  | _ => False

/-- The call has erased the notifiers of the token, and is about to erase the token. -/
def ErasesToken (token : Int) : AbilityCall → Prop
  | eraseToken t _ _ => t = token
  | _ => False

end AbilityCall

/-- What a first block does: it reads the maps, and no call goes on by erasing a token. -/
structure AbilityBlock.Reads (s : DistributedAbilityManagerService) (b : AbilityBlock) : Prop where
  service : b.service = s
  nullAccess : b.nullAccess = false
  next : ∀ call token, b.next = some call → ¬ call.ErasesToken token

theorem reads_stop (s : DistributedAbilityManagerService) (result : Int) :
    (AbilityBlock.stop s result).Reads s :=
  ⟨rfl, rfl, fun _ _ h => by cases h⟩

theorem reads_goOn (s : DistributedAbilityManagerService) {call : AbilityCall}
    (h : ∀ token, ¬ call.ErasesToken token) : (AbilityBlock.goOn s call).Reads s :=
  ⟨rfl, rfl, fun _ token hc => by cases hc; exact h token⟩

theorem AbilityRequest.check_reads (s : DistributedAbilityManagerService)
    (request : AbilityRequest) : (request.check s).Reads s := by
  have hnotifier : ∀ postDisconnect postNotify token cbType,
      (checkNotifier s postDisconnect postNotify token cbType).Reads s := by
    intro postDisconnect postNotify token cbType
    unfold checkNotifier
    split
    · exact reads_stop s _
    split
    · exact ⟨rfl, rfl, fun _ _ h => by cases h⟩
    · exact ⟨rfl, rfl, fun _ _ h => by cases h; exact id⟩
  cases request with
  | onDeviceConnect postDisconnect postNotify token =>
      exact hnotifier postDisconnect postNotify token eventConnect
  | onDeviceDisconnect postDisconnect postNotify token =>
      exact hnotifier postDisconnect postNotify token eventDisconnect
  | notifierDied postTask notifier =>
      rw [check]
      split
      · exact ⟨rfl, rfl, fun _ _ h => by cases h⟩
      · exact reads_goOn s fun _ => id
  | _ =>
      rw [check]
      split_ifs <;> first | exact reads_stop s _ | exact reads_goOn s fun _ => id

namespace AbilityCalls

variable {s : AbilityCalls} {i : Nat} {call : AbilityCall} {b : AbilityBlock} {token : Int}

/-- A call is about to erase the notifiers of the token. -/
def ToErase (s : AbilityCalls) (token : Int) : Prop :=
  ∃ (i : Nat) (call : AbilityCall), s.calls[i]? = some call ∧ call.ErasesCallback token

/-- A call is about to erase the token, whose notifiers it has erased. -/
def Erased (s : AbilityCalls) (token : Int) : Prop :=
  ∃ (i : Nat) (call : AbilityCall), s.calls[i]? = some call ∧ call.ErasesToken token

def Covered (s : AbilityCalls) (token : Int) : Prop :=
  s.service.HasToken token ∧ ¬ s.Erased token ∨ s.ToErase token

structure Inv (s : AbilityCalls) : Prop where
  fine : s.crashed = false
  noNull : s.service.NoNull
  covered : ∀ token, s.service.callbackMap[token]? ≠ none → s.Covered token
  started : ∀ (i : Nat) (call : AbilityCall), s.calls[i]? = some call → i < s.started

theorem inv_init (token : Int) : Inv { service := { token := token } } where
  fine := rfl
  noNull t ht := by simp at ht
  covered t ht := by simp at ht
  started i call hi := by simp at hi

theorem calls_after {j : Nat} {call' : AbilityCall} :
    (s.after i b).calls[j]? = some call' ↔
      i = j ∧ b.next = some call' ∨ i ≠ j ∧ s.calls[j]? = some call' :=
  ExtTreeMap.getElem?_put_eq_some

theorem calls_start {request : AbilityRequest} {j : Nat} {call' : AbilityCall} :
    (s.start request).calls[j]? = some call' ↔
      s.started = j ∧ some (.requested request) = some call' ∨
        s.started ≠ j ∧ s.calls[j]? = some call' :=
  ExtTreeMap.getElem?_put_eq_some

theorem ToErase.after (h : s.ToErase token) (hi : s.calls[i]? = some call)
    (hcall : ¬ call.ErasesCallback token) : (s.after i b).ToErase token := by
  obtain ⟨j, call', hj, he⟩ := h
  refine ⟨j, call', calls_after.mpr (.inr ⟨?_, hj⟩), he⟩
  rintro rfl
  obtain rfl := Option.some.inj (hi.symm.trans hj)
  exact hcall he

theorem Erased.of_after (h : (s.after i b).Erased token)
    (hnext : ∀ call, b.next = some call → ¬ call.ErasesToken token) : s.Erased token := by
  obtain ⟨j, call', hj, he⟩ := h
  rcases calls_after.mp hj with ⟨-, hn⟩ | ⟨-, hj⟩
  · exact absurd he (hnext call' hn)
  · exact ⟨j, call', hj, he⟩

/-- What a block of call `i` has to leave for an entry to stay covered. -/
theorem Covered.after (h : s.Covered token) (hi : s.calls[i]? = some call)
    (hcall : ¬ call.ErasesCallback token)
    (hnext : ∀ call, b.next = some call → ¬ call.ErasesToken token)
    (htoken : s.service.HasToken token → ¬ call.ErasesToken token → b.service.HasToken token) :
    (s.after i b).Covered token := by
  rcases h with ⟨ht, he⟩ | h
  · exact .inl ⟨htoken ht fun hc => he ⟨i, call, hi, hc⟩, fun h => he (h.of_after hnext)⟩
  · exact .inr (h.after hi hcall)

theorem Inv.start (h : s.Inv) (request : AbilityRequest) : (s.start request).Inv where
  fine := h.fine
  noNull := h.noNull
  covered token hc := by
    rcases h.covered token hc with ⟨ht, he⟩ | ⟨j, call, hj, he⟩
    · refine .inl ⟨ht, fun ⟨j, call, hj, hc⟩ => ?_⟩
      rcases calls_start.mp hj with ⟨-, hj⟩ | ⟨-, hj⟩
      · cases hj
        exact hc
      · exact he ⟨j, call, hj, hc⟩
    · exact .inr ⟨j, call, calls_start.mpr (.inr ⟨(Nat.ne_of_lt (h.started j _ hj)).symm, hj⟩), he⟩
  started j c hj := by
    rcases calls_start.mp hj with ⟨rfl, -⟩ | ⟨-, hj⟩
    · exact Nat.lt_succ_self _
    · exact Nat.lt_succ_of_lt (h.started j c hj)

/-- What a block of call `i` has to do. -/
theorem Inv.after (h : s.Inv) (hi : s.calls[i]? = some call) (hfine : b.nullAccess = false)
    (hnull : b.service.NoNull)
    (hcovered : ∀ token, b.service.callbackMap[token]? ≠ none → s.Covered token ∧
      ¬ call.ErasesCallback token ∧ (∀ call, b.next = some call → ¬ call.ErasesToken token) ∧
      (s.service.HasToken token → ¬ call.ErasesToken token → b.service.HasToken token)) :
    (s.after i b).Inv where
  fine := hfine
  noNull := hnull
  covered token hc := by
    obtain ⟨hcov, hcall, hnext, htoken⟩ := hcovered token hc
    exact hcov.after hi hcall hnext htoken
  started j c hj := by
    rcases calls_after.mp hj with ⟨rfl, -⟩ | ⟨-, hj⟩
    · exact h.started i call hi
    · exact h.started j c hj

end AbilityCalls

namespace AbilityMove

/-- The block goes through the pointer of its token: the check is still true. -/
def Present (s : AbilityCalls) : AbilityMove → Prop
  | call _ => True
  | block i =>
    match s.calls[i]? with
    | some (.setConnectStatusInfo token _) => s.service.isNotifierRegistered token = true
    | some (.getNotifier _ token _) => s.service.isNotifierRegistered token = true
    | _ => True

/-- The block makes an entry for its token: nothing has removed it since the check. -/
def Covers (s : AbilityCalls) : AbilityMove → Prop
  | call _ => True
  | block i =>
    match s.calls[i]? with
    | some (.setNotifier _ token _ _) => s.service.callbackMap[token]? = none → s.Covered token
    | _ => True

end AbilityMove

namespace AbilityCalls

variable {s : AbilityCalls} {i : Nat} {call : AbilityCall} {b : AbilityBlock} {token : Int}

/-- A block that leaves the entries, or changes one that is there. -/
theorem Inv.after_same (h : s.Inv) (hi : s.calls[i]? = some call)
    (hcall : ∀ token, ¬ call.ErasesCallback token) (hfine : b.nullAccess = false)
    (hnext : ∀ call token, b.next = some call → ¬ call.ErasesToken token)
    (hnull : b.service.NoNull)
    (hsub : ∀ token : Int, b.service.callbackMap[token]? ≠ none →
      s.service.callbackMap[token]? ≠ none)
    (htoken : ∀ token, s.service.HasToken token → b.service.HasToken token) : (s.after i b).Inv :=
  h.after hi hfine hnull fun token hc =>
    ⟨h.covered token (hsub token hc), hcall token, fun call => hnext call token,
      fun ht _ => htoken token ht⟩

/-- A block that only reads. -/
theorem Inv.reads_inv (h : s.Inv) (hi : s.calls[i]? = some call)
    (hcall : ∀ token, ¬ call.ErasesCallback token) (hb : b.Reads s.service) :
    (s.after i b).Inv := by
  refine h.after_same hi hcall hb.nullAccess hb.next ?_ ?_ ?_ <;> rw [hb.service]
  · exact h.noNull
  · exact fun _ ht => ht
  · exact fun _ ht => ht

theorem callbackMap_insert_ne_none {m : Map Int (Option NotifierInfo)} {o : Option NotifierInfo}
    {t : Int} (h : (m.insert token o)[t]? ≠ none) : t = token ∨ m[t]? ≠ none := by
  by_cases ht : t = token
  · exact .inl ht
  · rw [ExtTreeMap.getElem?_insert_of_ne (Ne.symm ht)] at h
    exact .inr h

section erasing

variable {postTask : Bool} {result : Option Int}

theorem Inv.eraseCallback_inv (h : s.Inv)
    (hi : s.calls[i]? = some (.eraseCallback token postTask result)) :
    (s.after i ((AbilityCall.eraseCallback token postTask result).block s.service)).Inv := by
  have hne : ∀ t, (s.service.eraseCallback token).1.callbackMap[t]? ≠ none → t ≠ token := by
    rintro t ht rfl
    rcases s.service.eraseCallback_self t with hn | ⟨hn, -⟩
    · exact ht hn
    · exact h.noNull t hn
  refine h.after hi rfl (h.noNull.eraseCallback token) fun t ht => ?_
  have htt := hne t ht
  have hold : s.service.callbackMap[t]? ≠ none := by rwa [← eraseCallback_of_ne htt]
  refine ⟨h.covered t hold, fun he => htt he.symm, fun call hn he => ?_, fun hh _ => ?_⟩
  · cases hn
    exact htt he.symm
  · obtain ⟨a, v, hv, hm⟩ := hh
    exact ⟨a, v, by rw [← eraseCallback_tokenMap token] at hv; exact hv, hm⟩

theorem Inv.eraseToken_inv (h : s.Inv)
    (hi : s.calls[i]? = some (.eraseToken token postTask result)) :
    (s.after i ((AbilityCall.eraseToken token postTask result).block s.service)).Inv := by
  refine h.after hi rfl h.noNull fun t ht =>
    ⟨h.covered t ht, id, fun call hn => (by cases hn), fun hh hne => ?_⟩
  exact hasToken_eraseToken_of_ne hh fun he => hne he.symm

end erasing

theorem Inv.setNotifier_inv (h : s.Inv) {errNullObject : Int} {cbType : String}
    {notifier : RemoteObject}
    (hi : s.calls[i]? = some (.setNotifier errNullObject token cbType notifier))
    (hcov : s.service.callbackMap[token]? = none → s.Covered token) :
    (s.after i ((AbilityCall.setNotifier errNullObject token cbType notifier).block
      s.service)).Inv := by
  have hset : ∃ info effects, s.service.setNotifier token cbType notifier errNullObject =
      ⟨errOk, { s.service with callbackMap := s.service.callbackMap.insert token (some info) },
        effects⟩ := by
    unfold setNotifier
    cases hc : s.service.callbackMap[token]? with
    | none => exact ⟨_, _, rfl⟩
    | some o =>
        cases o with
        | none => exact absurd hc (h.noNull token)
        | some info => exact ⟨_, _, rfl⟩
  obtain ⟨info, effects, hset⟩ := hset
  simp only [AbilityCall.block, hset]
  refine h.after hi rfl (h.noNull.insert token info) fun t ht =>
    ⟨?_, id, fun call hn => (by cases hn), fun hh _ => hh⟩
  rcases callbackMap_insert_ne_none ht with rfl | ht
  · -- a notifier under a new key is one that the step covers
    by_cases hc : s.service.callbackMap[t]? = none
    · exact hcov hc
    · exact h.covered t hc
  · exact h.covered t ht

/-- One block of any call. -/
theorem Inv.block_inv (h : s.Inv) (hi : s.calls[i]? = some call)
    (hpresent : (AbilityMove.block i).Present s) (hcovers : (AbilityMove.block i).Covers s) :
    (s.after i (call.block s.service)).Inv := by
  simp only [AbilityMove.Present, AbilityMove.Covers, hi] at hpresent hcovers
  cases call with
  | requested request => exact h.reads_inv hi (fun _ => id) (request.check_reads s.service)
  | storeToken accessToken =>
      exact h.after_same hi (fun _ => id) rfl (fun _ _ hn => by cases hn; exact id) h.noNull
        (fun _ ht => ht) fun _ ht => ht
  | emplaceToken accessToken token =>
      exact h.after_same hi (fun _ => id) rfl (fun _ _ hn => by cases hn) h.noNull
        (fun _ ht => ht) fun _ ht => hasToken_emplaceToken.mpr (.inl ht)
  | eraseCallback token postTask result => exact h.eraseCallback_inv hi
  | eraseToken token postTask result => exact h.eraseToken_inv hi
  | setNotifier errNullObject token cbType notifier => exact h.setNotifier_inv hi hcovers
  | checkNotRegistered | checkRegistered | checkUpdate =>
      refine h.reads_inv hi (fun _ => id) ?_
      simp only [AbilityCall.block]
      split <;> first | exact reads_stop s.service _ | exact reads_goOn s.service fun _ => id
  | checkStart panel token =>
      refine h.reads_inv hi (fun _ => id) ?_
      simp only [AbilityCall.block]
      split
      · exact reads_stop s.service _
      split
      · exact reads_stop s.service _
      · exact ⟨rfl, rfl, fun _ _ hn => by cases hn; exact id⟩
  | deleteNotifier token cbType =>
      simp only [AbilityCall.block]
      split
      · rename_i r hr
        exact h.after_same hi (fun _ => id) rfl (fun _ _ hn => by cases hn) (h.noNull.delete hr)
          (fun _ ht => callbackMap_of_delete hr ht)
          fun _ ht => by rwa [HasToken, AbilityBlock.stop, deleteNotifier_tokenMap hr]
      · rename_i hr
        exact absurd hr (deleteNotifier_ne_none h.noNull cbType)
  | setConnectStatusInfo token connectStatusInfo =>
      obtain ⟨info, hinfo⟩ := isNotifierRegistered_iff.mp hpresent
      simp only [AbilityCall.block, DistributedAbilityManagerService.setConnectStatusInfo,
        access_of_some hinfo]
      refine h.after_same hi (fun _ => id) rfl (fun _ _ hn => by cases hn)
        (h.noNull.insert token _) (fun t ht => ?_) fun _ ht => ht
      rcases callbackMap_insert_ne_none ht with rfl | ht
      · exact Option.ne_none_iff_exists'.mpr ⟨_, hinfo⟩
      · exact ht
  | getConnectStatusInfo token =>
      obtain ⟨connectStatusInfo, hget⟩ := getConnectStatusInfo_eq s.service token
      simp only [AbilityCall.block, hget]
      exact h.reads_inv hi (fun _ => id) ⟨rfl, rfl, fun _ _ hn => by cases hn⟩
  | getNotifier postNotify token cbType =>
      obtain ⟨info, hinfo⟩ := isNotifierRegistered_iff.mp hpresent
      simp only [AbilityCall.block, DistributedAbilityManagerService.getNotifier,
        access_of_some hinfo]
      exact h.reads_inv hi (fun _ => id) ⟨rfl, rfl, fun _ _ hn => by cases hn⟩

theorem inv_of_reach {token : Int} (hr : Runs.Reach AbilityMove.apply
    (fun s move => move.Present s ∧ move.Covers s) { service := { token := token } } s) :
    s.Inv := by
  refine hr.invariant (P := Inv) (inv_init token) fun s move s' hi hok hs => ?_
  cases move with
  | call request =>
      simp only [AbilityMove.apply, hi.fine, Bool.false_eq_true, if_false] at hs
      cases hs
      exact hi.start request
  | block i =>
      simp only [AbilityMove.apply, hi.fine, Bool.false_eq_true, if_false] at hs
      split at hs
      · cases hs
      · rename_i call hc
        cases hs
        exact hi.block_inv hc hok.1 hok.2

/-- A pointer that is not there any more. -/
theorem crash_of_not_present {s' : AbilityCalls} {move : AbilityMove} (hp : ¬ move.Present s)
    (hs : move.apply s = some s') :
    s'.crashed = true ∧ ∃ token : Int, s'.service.callbackMap[token]? = some none := by
  cases move with
  | call request => exact absurd trivial hp
  | block i =>
      simp only [AbilityMove.Present] at hp
      simp only [AbilityMove.apply] at hs
      split at hs
      · cases hs
      split at hp
      · rename_i token connectStatusInfo hi
        rw [hi] at hs
        cases hs
        obtain ⟨hnone, hnull⟩ := setConnectStatusInfo_null (by simpa using hp) connectStatusInfo
        exact ⟨Option.isNone_iff_eq_none.mpr hnone, token, hnull⟩
      · rename_i postNotify token cbType hi
        rw [hi] at hs
        cases hs
        obtain ⟨hnone, hnull⟩ := getNotifier_null (by simpa using hp) cbType
        exact ⟨Option.isNone_iff_eq_none.mpr hnone, token, hnull⟩
      · exact absurd trivial hp

/-- An entry that nothing is left to take away. -/
theorem uncovered_of_not_covers {s' : AbilityCalls} {move : AbilityMove} (hc : ¬ move.Covers s)
    (hs : move.apply s = some s') :
    ∃ token : Int, s'.service.callbackMap[token]? ≠ none ∧ ¬ s'.Covered token := by
  cases move with
  | call request => exact absurd trivial hc
  | block i =>
      simp only [AbilityMove.Covers] at hc
      simp only [AbilityMove.apply] at hs
      split at hs
      · cases hs
      split at hc
      · rename_i errNullObject token cbType notifier hi
        rw [hi] at hs
        cases hs
        obtain ⟨hnone, hc⟩ := not_forall.mp hc
        have hset := setNotifier_first hnone cbType notifier errNullObject
        refine ⟨token, ?_, fun h => hc ?_⟩
        · show (s.service.setNotifier token cbType notifier errNullObject).service.callbackMap[
            token]? ≠ none
          rw [hset]
          exact ExtTreeMap.getElem?_insert_self.trans_ne (Option.some_ne_none _)
        · rcases h with ⟨ht, he⟩ | ⟨j, call, hj, hcall⟩
          · have ht : (s.service.setNotifier token cbType notifier
              errNullObject).service.HasToken token := ht
            rw [hset] at ht
            refine .inl ⟨ht, ?_⟩
            rintro ⟨j, call, hj, hcall⟩
            refine he ⟨j, call, calls_after.mpr (.inr ⟨?_, hj⟩), hcall⟩
            rintro rfl
            cases hi.symm.trans hj
            exact hcall
          · rcases calls_after.mp hj with ⟨-, hj⟩ | ⟨-, hj⟩
            · cases hj
            · exact .inr ⟨j, call, hj, hcall⟩
      · exact absurd trivial hc

end AbilityCalls

/-- **Acting on a check.**  While a call goes through the pointer of its token only when it is
there, and makes an entry for a token only when nothing has removed the token since, no null
pointer is dereferenced or stored, and at the end every entry of `callbackMap_` has its token.  A
step that does not meet the first condition crashes, and one that does not meet the second leaves
an entry that nothing is to take away. -/
theorem acts_on_present {token₀ : Int} {s : AbilityCalls}
    (hr : Runs.Reach AbilityMove.apply (fun s move => move.Present s ∧ move.Covers s)
      { service := { token := token₀ } } s) :
    s.crashed = false ∧ (∀ token : Int, s.service.callbackMap[token]? ≠ some none) ∧
    (s.calls = ∅ → ∀ token : Int, s.service.callbackMap[token]? ≠ none →
      s.service.HasToken token) ∧
    (∀ (move : AbilityMove) (s' : AbilityCalls), move.apply s = some s' → ¬ move.Present s →
      s'.crashed = true ∧ ∃ token : Int, s'.service.callbackMap[token]? = some none) ∧
    ∀ (move : AbilityMove) (s' : AbilityCalls), move.apply s = some s' → ¬ move.Covers s →
      ∃ token : Int, s'.service.callbackMap[token]? ≠ none ∧ ¬ s'.Covered token := by
  have hi := AbilityCalls.inv_of_reach hr
  refine ⟨hi.fine, hi.noNull, fun hcalls token hc => ?_,
    fun _ _ hs hp => AbilityCalls.crash_of_not_present hp hs,
    fun _ _ hs hc => AbilityCalls.uncovered_of_not_covers hc hs⟩
  rcases hi.covered token hc with ⟨ht, -⟩ | ⟨i, call, hcall, -⟩
  · exact ht
  · rw [hcalls, ExtTreeMap.getElem?_empty] at hcall
    cases hcall

/-- A registered token is covered while no other call is in progress. -/
theorem AbilityCalls.covered_of_alone {s : AbilityCalls} {i : Nat} {call : AbilityCall}
    {token : Int} (hcalls : s.calls.toList = [(i, call)]) (ht : token ∈ s.service.tokens)
    (hcall : ¬ call.ErasesToken token) : s.Covered token := by
  refine .inl ⟨mem_tokens.mp ht, fun ⟨j, call', hj, he⟩ => hcall ?_⟩
  have hm := ExtTreeMap.mem_toList_iff_getElem?_eq_some.mpr hj
  rw [hcalls] at hm
  cases (Prod.mk.inj (List.mem_singleton.mp hm)).2
  exact he

/-- Two applications register a notifier each, one call after the other; the first is told of a
device, and the second leaves. -/
theorem acts_on_present_two : ∃ s : AbilityCalls, s.crashed = false ∧ s.calls = ∅ ∧
    s.service.callbackMap[(1 : Int)]? ≠ none ∧ s.service.HasToken 1 ∧
    s.service.callbackMap[(2 : Int)]? = none ∧ s.service.tokens = [1] := by
  have hregister : Runs.Reach AbilityMove.apply (fun s move => move.Present s ∧ move.Covers s)
      { service := { token := 0 } } _ :=
    .next (.next (.next (.next (.next (.next (.next (.next .init
      (l := .call (.register none 5)) ⟨trivial, trivial⟩ rfl)
      (l := .block 0) ⟨trivial, trivial⟩ rfl) (l := .block 0) ⟨trivial, trivial⟩ rfl)
      (l := .block 0) ⟨trivial, trivial⟩ rfl)
      (l := .call (.register none 8)) ⟨trivial, trivial⟩ rfl)
      (l := .block 1) ⟨trivial, trivial⟩ rfl) (l := .block 1) ⟨trivial, trivial⟩ rfl)
      (l := .block 1) ⟨trivial, trivial⟩ rfl
  have hnotifiers : Runs.Reach AbilityMove.apply (fun s move => move.Present s ∧ move.Covers s)
      { service := { token := 0 } } _ :=
    .next (.next (.next (.next (.next (.next (.next (.next hregister
      (l := .call (.registerDeviceSelectionCallback 1 5 1 eventConnect 7)) ⟨trivial, trivial⟩ rfl)
      (l := .block 2) ⟨trivial, trivial⟩ rfl) (l := .block 2) ⟨trivial, trivial⟩ rfl)
      (l := .block 2) ⟨trivial, fun _ => AbilityCalls.covered_of_alone rfl (by decide) id⟩ rfl)
      (l := .call (.registerDeviceSelectionCallback 1 8 2 eventConnect 9)) ⟨trivial, trivial⟩ rfl)
      (l := .block 3) ⟨trivial, trivial⟩ rfl) (l := .block 3) ⟨trivial, trivial⟩ rfl)
      (l := .block 3) ⟨trivial, fun _ => AbilityCalls.covered_of_alone rfl (by decide) id⟩ rfl
  have hr : Runs.Reach AbilityMove.apply (fun s move => move.Present s ∧ move.Covers s)
      { service := { token := 0 } } _ :=
    .next (.next (.next (.next (.next (.next (.next hnotifiers
      (l := .call (.onDeviceConnect true true 1)) ⟨trivial, trivial⟩ rfl)
      (l := .block 4) ⟨trivial, trivial⟩ rfl) (l := .block 4) ⟨rfl, trivial⟩ rfl)
      (l := .call (.unregister true 8 2)) ⟨trivial, trivial⟩ rfl)
      (l := .block 5) ⟨trivial, trivial⟩ rfl) (l := .block 5) ⟨trivial, trivial⟩ rfl)
      (l := .block 5) ⟨trivial, trivial⟩ rfl
  obtain ⟨hfine, -, hcovered, -⟩ := acts_on_present hr
  refine ⟨_, hfine, ?_, ?_, hcovered (ExtTreeMap.isEmpty_iff.mp rfl) 1 (Option.some_ne_none _),
    rfl, rfl⟩
  · exact ExtTreeMap.isEmpty_iff.mp rfl
  · exact Option.some_ne_none _

/-- **Checks that are old.**  `OnDeviceConnect` finds its notifier, and `Unregister` removes the
token before it goes through the pointer; `RegisterDeviceSelectionCallback` finds its token, and
makes an entry for it when `Unregister` has returned. -/
theorem stale_checks :
    (∃ s : AbilityCalls, Runs.Reachable AbilityMove.apply {} s ∧ s.crashed = true ∧
      s.service.callbackMap[(1 : Int)]? = some none) ∧
    ∃ s : AbilityCalls, Runs.Reachable AbilityMove.apply {} s ∧ s.calls = ∅ ∧
      s.service.callbackMap[(1 : Int)]? ≠ none ∧ ¬ s.service.HasToken 1 := by
  have hdied := Runs.Reach.of_exec (show Runs.exec AbilityMove.apply {}
    [.call (.register none 5), .block 0, .block 0, .block 0,
      .call (.registerDeviceSelectionCallback 1 5 1 eventConnect 7), .block 1, .block 1, .block 1,
      .call (.onDeviceConnect true true 1), .block 2,
      .call (.unregister true 5 1), .block 3, .block 3, .block 3, .block 2] = some _ from rfl)
  have hleft := Runs.Reach.of_exec (show Runs.exec AbilityMove.apply {}
    [.call (.register none 5), .block 0, .block 0, .block 0,
      .call (.registerDeviceSelectionCallback 1 5 1 eventConnect 7), .block 1, .block 1,
      .call (.unregister true 5 1), .block 2, .block 2, .block 2, .block 1] = some _ from rfl)
  refine ⟨⟨_, hdied, rfl, rfl⟩, _, hleft, ?_, ?_, fun h => ?_⟩
  · exact ExtTreeMap.isEmpty_iff.mp rfl
  · exact Option.some_ne_none _
  · exact List.not_mem_nil (mem_tokens.mpr h)

end DistributedSched
