import DistributedSched.Ability.Registry

/-!
# Ability — the notifiers that the blocks leave

What each block does to `callbackMap_`, in any state: no token need be unique here, and no entry
need have its token.

* `Holds`: the notifier of a token for an event type; `holds_removed`, `holds_set_first` and
  `holds_delete` say what is held after a block.
* `NoNull`: no pointer is null, which every block keeps that does not go through `access`.
* `query_of_holds`: then a notifier that is held is found.
-/

namespace DistributedSched

open Std (ExtTreeMap)

namespace DistributedAbilityManagerService

variable {s : DistributedAbilityManagerService}

/-- The notifier is registered under the token, for the event type. -/
def Holds (s : DistributedAbilityManagerService) (token : Int) (cbType : String)
    (notifier : RemoteObject) : Prop :=
  ∃ info : NotifierInfo, s.callbackMap[token]? = some (some info) ∧
    info.notifierMap[cbType]? = some notifier

/-- No pointer of `callbackMap_` is null. -/
def NoNull (s : DistributedAbilityManagerService) : Prop :=
  ∀ token : Int, s.callbackMap[token]? ≠ some none

/-! ### What a block does to the notifiers -/

/-- Only `callbackMap_` is looked at. -/
theorem holds_congr {s' : DistributedAbilityManagerService} {token : Int} {cbType : String}
    {notifier : RemoteObject} (h : s'.callbackMap[token]? = s.callbackMap[token]?) :
    s'.Holds token cbType notifier ↔ s.Holds token cbType notifier := by
  rw [Holds, Holds, h]

/-- The notifiers of a token, listed. -/
theorem holds_iff_mem {token : Int} {cbType : String} {notifier : RemoteObject} :
    s.Holds token cbType notifier ↔
      (cbType, notifier) ∈ (s.callbackMap[token]?.join.getD {}).notifierMap.toList := by
  rw [ExtTreeMap.mem_toList_iff_getElem?_eq_some, Holds]
  cases s.callbackMap[token]? with
  | none => simp
  | some o => cases o <;> simp

/-- Another token keeps its notifiers. -/
theorem eraseCallback_of_ne {token t : Int} (ht : t ≠ token) :
    (s.eraseCallback token).1.callbackMap[t]? = s.callbackMap[t]? := by
  unfold eraseCallback
  split
  · exact ExtTreeMap.getElem?_erase_of_ne (Ne.symm ht)
  · rfl

/-- It leaves a null pointer. -/
theorem eraseCallback_self (token : Int) :
    (s.eraseCallback token).1.callbackMap[token]? = none ∨
      s.callbackMap[token]? = some none ∧
        (s.eraseCallback token).1.callbackMap[token]? = some none := by
  unfold eraseCallback
  cases hc : s.callbackMap[token]? with
  | none => exact .inl hc
  | some o =>
      cases o with
      | none => exact .inr ⟨rfl, hc⟩
      | some info => exact .inl ExtTreeMap.getElem?_erase_self

/-- With the token go the notifiers under it, and no others. -/
theorem holds_removed {token t : Int} {cbType : String} {notifier : RemoteObject} :
    (s.removed token).Holds t cbType notifier ↔ s.Holds t cbType notifier ∧ t ≠ token := by
  by_cases ht : t = token
  · subst ht
    refine iff_of_false ?_ fun h => h.2 rfl
    rintro ⟨info, hi, -⟩
    rcases s.eraseCallback_self t with h | ⟨-, h⟩ <;> cases h.symm.trans hi
  · have he : (s.removed token).callbackMap[t]? = s.callbackMap[t]? := eraseCallback_of_ne ht
    rw [holds_congr he]
    exact (and_iff_left ht).symm

/-- Erasing makes no null pointer. -/
theorem NoNull.eraseCallback (h : s.NoNull) (token : Int) : (s.eraseCallback token).1.NoNull := by
  intro t ht
  by_cases he : t = token
  · subst he
    rcases s.eraseCallback_self t with hn | ⟨hn, -⟩
    · cases hn.symm.trans ht
    · exact h t hn
  · exact h t ((eraseCallback_of_ne he).symm.trans ht)

theorem NoNull.removed (h : s.NoNull) (token : Int) : (s.removed token).NoNull :=
  h.eraseCallback token

/-- The first notifier of a token. -/
theorem setNotifier_first {token : Int} (h : s.callbackMap[token]? = none) (cbType : String)
    (notifier : RemoteObject) (errNullObject : Int) :
    s.setNotifier token cbType notifier errNullObject =
      ⟨errOk, { s with callbackMap :=
          s.callbackMap.insert token (some (NotifierInfo.setNotifier {} cbType notifier)) },
        [.addDeathRecipient notifier]⟩ := by
  unfold setNotifier
  rw [h]

/-- Storing what is no null pointer makes none. -/
theorem NoNull.insert (h : s.NoNull) (token : Int) (info : NotifierInfo) :
    NoNull { s with callbackMap := s.callbackMap.insert token (some info) } := by
  intro t ht
  rw [ExtTreeMap.getElem?_insert] at ht
  split at ht
  · cases ht
  · exact h t ht

theorem NoNull.erase (h : s.NoNull) (token : Int) :
    NoNull { s with callbackMap := s.callbackMap.erase token } := by
  intro t ht
  rw [ExtTreeMap.getElem?_erase] at ht
  split at ht
  · cases ht
  · exact h t ht

/-- What is stored under a token takes the place of what was there. -/
theorem holds_insert {token t : Int} {info : NotifierInfo} {cbType : String}
    {notifier : RemoteObject} :
    Holds { s with callbackMap := s.callbackMap.insert token (some info) } t cbType notifier ↔
      if t = token then info.notifierMap[cbType]? = some notifier
      else s.Holds t cbType notifier := by
  unfold Holds
  by_cases ht : t = token
  · subst ht
    simp
  · simp only [ExtTreeMap.getElem?_insert_of_ne (Ne.symm ht), ht, if_false]

/-- The first notifier of a token is its only one. -/
theorem holds_set_first {token t : Int} {cbType c : String} {notifier n : RemoteObject}
    (h : s.callbackMap[token]? = none) :
    Holds { s with callbackMap :=
        s.callbackMap.insert token (some (NotifierInfo.setNotifier {} cbType notifier)) } t c n ↔
      s.Holds t c n ∨ t = token ∧ c = cbType ∧ n = notifier := by
  rw [holds_insert]
  by_cases ht : t = token
  · subst ht
    have hno : ¬ s.Holds t c n := fun ⟨info, hi, _⟩ => by rw [h] at hi; cases hi
    simp only [if_true, NotifierInfo.setNotifier, ExtTreeMap.getElem?_insert, hno, false_or,
      true_and, Std.LawfulEqCmp.compare_eq_iff_eq, ExtTreeMap.getElem?_empty]
    by_cases hc : cbType = c
    · simp [hc, eq_comm]
    · simp [hc, eq_comm]
  · simp [ht]

/-- A notifier is taken from the token. -/
theorem holds_delete {token t : Int} {cbType c : String} {n : RemoteObject}
    {r : DistributedAbilityManagerService × List AbilityEffect}
    (h : s.deleteNotifier token cbType = some r) :
    r.1.Holds t c n ↔ s.Holds t c n ∧ ¬ (t = token ∧ c = cbType) := by
  unfold deleteNotifier at h
  split at h
  · rename_i hn
    cases h
    refine ⟨fun hh => ⟨hh, ?_⟩, And.left⟩
    rintro ⟨rfl, -⟩
    obtain ⟨info, hi, -⟩ := hh
    rw [hn] at hi
    cases hi
  · cases h
  · rename_i info hi
    cases h
    have hd : ∀ c, (info.deleteNotifier cbType).notifierMap[c]? = some n ↔
        info.notifierMap[c]? = some n ∧ c ≠ cbType := by
      intro c
      simp only [NotifierInfo.deleteNotifier, ExtTreeMap.getElem?_erase,
        Std.LawfulEqCmp.compare_eq_iff_eq]
      by_cases hc : cbType = c
      · simp [hc]
      · simp [hc, Ne.symm hc]
    have hs : s.Holds token c n ↔ info.notifierMap[c]? = some n := by
      simp [Holds, hi]
    show Holds { s with callbackMap := ite _ _ _ } t c n ↔ _
    split
    · -- the last notifier goes, and the entry with it
      rename_i he
      by_cases ht : t = token
      · subst ht
        have hemp := ExtTreeMap.isEmpty_iff.mp he
        have hnone : ¬ (info.notifierMap[c]? = some n ∧ c ≠ cbType) := by
          rw [← hd, hemp]
          simp
        rw [hs]
        simp only [Holds, true_and]
        simp only [ExtTreeMap.getElem?_erase_self, reduceCtorEq, false_and, exists_false, false_iff]
        exact hnone
      · simp only [Holds, ExtTreeMap.getElem?_erase_of_ne (Ne.symm ht), ht, false_and,
          not_false_iff, and_true]
    · rw [holds_insert, hd]
      by_cases ht : t = token
      · subst ht
        simp [hs]
      · simp [ht]

/-- A deletion keeps the pointers that it leaves. -/
theorem NoNull.delete (h : s.NoNull) {token : Int} {cbType : String}
    {r : DistributedAbilityManagerService × List AbilityEffect}
    (hr : s.deleteNotifier token cbType = some r) : r.1.NoNull := by
  unfold deleteNotifier at hr
  split at hr
  · cases hr
    exact h
  · cases hr
  · cases hr
    split
    · exact h.erase token
    · exact h.insert token _

/-- A deletion leaves the notifiers of every other token. -/
theorem deleteNotifier_of_ne {token t : Int} {cbType : String}
    {r : DistributedAbilityManagerService × List AbilityEffect}
    (hr : s.deleteNotifier token cbType = some r) (ht : t ≠ token) :
    r.1.callbackMap[t]? = s.callbackMap[t]? := by
  unfold deleteNotifier at hr
  split at hr
  · cases hr
    rfl
  · cases hr
  · cases hr
    dsimp only
    split
    · exact ExtTreeMap.getElem?_erase_of_ne (Ne.symm ht)
    · exact ExtTreeMap.getElem?_insert_of_ne (Ne.symm ht)

/-- A deletion leaves the tokens. -/
theorem deleteNotifier_tokenMap {token : Int} {cbType : String}
    {r : DistributedAbilityManagerService × List AbilityEffect}
    (hr : s.deleteNotifier token cbType = some r) : r.1.tokenMap = s.tokenMap := by
  unfold deleteNotifier at hr
  split at hr
  · cases hr
    rfl
  · cases hr
  · cases hr
    rfl

/-- And it goes through no null pointer, when there is none. -/
theorem deleteNotifier_ne_none (h : s.NoNull) {token : Int} (cbType : String) :
    s.deleteNotifier token cbType ≠ none := by
  unfold deleteNotifier
  split
  · exact Option.some_ne_none _
  · rename_i hn
    exact absurd hn (h token)
  · exact Option.some_ne_none _

/-! ### What a removal leaves -/

theorem NoEmpty.eraseCallback (h : s.NoEmpty) (token : Int) :
    (s.eraseCallback token).1.NoEmpty := by
  rw [NoEmpty, eraseCallback_tokenMap]
  exact h

theorem InOneVector.eraseCallback {token : Int} (h : s.InOneVector token) (t : Int) :
    (s.eraseCallback t).1.InOneVector token := by
  rw [InOneVector, eraseCallback_tokenMap]
  exact h

/-- A removal empties no vector that it leaves. -/
theorem NoEmpty.removed (h : s.NoEmpty) (token : Int) : (s.removed token).NoEmpty :=
  (h.eraseCallback token).eraseToken token

/-- A removal puts no token into a second vector. -/
theorem InOneVector.removed {token : Int} (h : s.InOneVector token) (hne : s.NoEmpty) (t : Int) :
    (s.removed t).InOneVector token :=
  (h.eraseCallback t).eraseToken (hne.eraseCallback t) t

/-- A removal adds no token. -/
theorem hasToken_of_removed (hne : s.NoEmpty) {token t : Int} (h : (s.removed token).HasToken t) :
    s.HasToken t := by
  obtain ⟨a, v, hv, hm⟩ := h
  obtain ⟨-, w, hw, hsub⟩ := of_eraseToken_getElem? (hne.eraseCallback token) hv
  rw [eraseCallback_tokenMap] at hw
  exact ⟨a, w, hw, hsub t hm⟩

/-- In any state, every other token is kept. -/
theorem hasToken_eraseToken_of_ne {token t : Int} (h : s.HasToken t) (hne : t ≠ token) :
    (s.eraseToken token).HasToken t := by
  obtain ⟨a, v, hv, hm⟩ := h
  obtain ⟨left, -, hw⟩ := ExtTreeMap.walk_getElem?_some (f := eraseTokenFrom token)
    (Q := fun _ => True) (s := false) hv trivial fun _ _ _ _ _ _ => trivial
  have hmem : t ∈ v.filter fun n => n ≠ token := List.mem_filter.mpr ⟨hm, decide_eq_true hne⟩
  cases left with
  | true => exact ⟨a, v, hw, hm⟩
  | false =>
      refine ⟨a, _, hw.trans ?_, hmem⟩
      have hemp : ¬ (v.filter fun n => n ≠ token).isEmpty = true := by
        rw [List.isEmpty_iff]
        exact List.ne_nil_of_mem hmem
      simp only [eraseTokenFrom, Bool.false_eq_true, if_false, if_neg hemp]

/-- Neither map has the token. -/
def Gone (s : DistributedAbilityManagerService) (token : Int) : Prop :=
  s.callbackMap[token]? = none ∧ ¬ s.HasToken token

/-- A removal takes the token out of both maps. -/
theorem gone_removed (hnull : s.NoNull) (hne : s.NoEmpty) {token : Int}
    (hone : s.InOneVector token) : (s.removed token).Gone token := by
  constructor
  · rcases s.eraseCallback_self token with h | ⟨h, -⟩
    · exact h
    · exact absurd h (hnull token)
  · intro h
    exact ((hasToken_eraseToken (hne.eraseCallback token) (hone.eraseCallback token)).mp h).2 rfl

/-- A token that is gone stays away. -/
theorem Gone.removed {token : Int} (h : s.Gone token) (hne : s.NoEmpty) (t : Int) :
    (s.removed t).Gone token := by
  refine ⟨?_, fun ht => h.2 (hasToken_of_removed hne ht)⟩
  by_cases he : token = t
  · subst he
    rcases s.eraseCallback_self token with hn | ⟨hn, -⟩
    · exact hn
    · cases h.1.symm.trans hn
  · exact (eraseCallback_of_ne he).trans h.1

/-! ### Finding a notifier -/

/-- The loop does not pass over a notifier that it comes to. -/
theorem findNotifier_ne_none {token : Int} {info : NotifierInfo} {notifier : RemoteObject}
    (hq : info.queryNotifier notifier = true) : ∀ {l : List (Int × Option NotifierInfo)},
      (l.all fun e => e.2.isSome) = true → (token, some info) ∈ l → findNotifier notifier l ≠ none
  | (_, none) :: _, hnull, _ => by cases hnull
  | (t, some i) :: rest, hnull, hm => by
      rw [findNotifier]
      split
      · exact Option.some_ne_none t
      · rename_i hf
        rcases List.mem_cons.mp hm with he | hm
        · cases he
          exact absurd hq hf
        · exact findNotifier_ne_none hq hnull hm

/-- With no null pointer in the way, a notifier that is held is found. -/
theorem query_of_holds (hnull : (s.callbackMap.toList.all fun e => e.2.isSome) = true)
    {token : Int} {cbType : String} {notifier : RemoteObject}
    (hh : s.Holds token cbType notifier) : s.queryTokenByNotifier notifier ≠ none := by
  obtain ⟨info, hi, hn⟩ := hh
  have hq : info.queryNotifier notifier = true := queryNotifier_iff.mpr ⟨cbType, hn⟩
  exact findNotifier_ne_none hq hnull (ExtTreeMap.mem_toList_iff_getElem?_eq_some.mpr hi)

theorem NoNull.all_isSome (h : s.NoNull) :
    (s.callbackMap.toList.all fun e => e.2.isSome) = true := by
  refine List.all_eq_true.mpr fun e he => ?_
  have hne := h e.1
  rw [ExtTreeMap.mem_toList_iff_getElem?_eq_some.mp he] at hne
  exact Option.isSome_iff_ne_none.mpr fun hn => hne (congrArg some hn)

/-- What is found is held. -/
theorem holds_of_query {token : Int} {notifier : RemoteObject}
    (hq : s.queryTokenByNotifier notifier = some token) :
    ∃ cbType, s.Holds token cbType notifier := by
  obtain ⟨info, hi, hq⟩ := queryTokenByNotifier_eq_some hq
  obtain ⟨cbType, hn⟩ := queryNotifier_iff.mp hq
  exact ⟨cbType, info, hi, hn⟩

end DistributedAbilityManagerService

end DistributedSched
