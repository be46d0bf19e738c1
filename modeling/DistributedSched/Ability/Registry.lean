import DistributedSched.Ability.Service
import DistributedSched.Library.Runs
import DistributedSched.Library.Tally

/-!
# Ability — the token registry

The calls of the continuation manager, one after another, with the death recipients that they
add to notifiers and remove from them.

* `Registry`: a token is in one vector and once, no vector is empty or too long, and a notifier
  is registered under a token of the registry.
* `eraseToken_getElem?`: in such a state the loop that erases a token, which stops at the first
  vector that it empties, erases the token and nothing else.
* `token_registry`: the registry in every state of a run in which the counter does not wrap, and
  what `Unregister` and the death of a notifier remove.
-/

namespace DistributedSched

open Std (ExtTreeMap)

structure AbilityHost where
  service : DistributedAbilityManagerService := {}
  /-- how often `notifierDeathRecipient_` is registered on an object -/
  recipients : Map RemoteObject Nat := ∅

/-- What an effect does to the recipients. -/
def AbilityEffect.apply (recipients : Map RemoteObject Nat) : AbilityEffect → Map RemoteObject Nat
  | addDeathRecipient notifier => recipients.bump notifier
  | removeDeathRecipient notifier => recipients.drop notifier
  | disconnectAbility => recipients

def AbilityHost.leave (h : AbilityHost) (service : DistributedAbilityManagerService)
    (effects : List AbilityEffect) : AbilityHost :=
  ⟨service, effects.foldl AbilityEffect.apply h.recipients⟩

inductive AbilityOp where
  | register (continuationMode : Option Int) (accessToken : Nat)
  | unregister (postTask : Bool) (accessToken : Nat) (token : Int)
  | registerDeviceSelectionCallback (errNullObject : Int) (accessToken : Nat) (token : Int)
      (cbType : String) (notifier : RemoteObject)
  | unregisterDeviceSelectionCallback (accessToken : Nat) (token : Int) (cbType : String)
  /-- the task of `HandleNotifierDied` -/
  | notifierDied (postTask : Bool) (notifier : RemoteObject)

namespace AbilityOp

/-- A step; it has no result when a null pointer is dereferenced. -/
def apply (h : AbilityHost) : AbilityOp → Option AbilityHost
  | register continuationMode accessToken =>
    some (h.leave (h.service.register continuationMode accessToken).2 [])
  | unregister postTask accessToken token =>
    let o := h.service.unregister postTask accessToken token
    some (h.leave o.service o.effects)
  | registerDeviceSelectionCallback errNullObject accessToken token cbType notifier =>
    let o := h.service.registerDeviceSelectionCallback errNullObject accessToken token cbType
      notifier
    some (h.leave o.service o.effects)
  | unregisterDeviceSelectionCallback accessToken token cbType =>
    (h.service.unregisterDeviceSelectionCallback accessToken token cbType).map fun o =>
      h.leave o.service o.effects
  | notifierDied postTask notifier =>
    let r := h.service.runNotifierDied postTask notifier
    some (h.leave r.1 r.2)

/-- The token counter does not wrap. -/
def NoWrap (h : AbilityHost) : AbilityOp → Prop
  | register continuationMode accessToken =>
    (h.service.register continuationMode accessToken).1.1 = errOk → h.service.token < maxTokenNum
  | _ => True

end AbilityOp

namespace DistributedAbilityManagerService

variable {s : DistributedAbilityManagerService}

/-- The token is registered, for whatever access token. -/
def HasToken (s : DistributedAbilityManagerService) (token : Int) : Prop :=
  ∃ (accessToken : Nat) (tokens : List Int), s.tokenMap[accessToken]? = some tokens ∧
    token ∈ tokens

/-- All the vectors of `tokenMap_` together. -/
def tokens (s : DistributedAbilityManagerService) : List Int :=
  s.tokenMap.toList.flatMap fun e => e.2

theorem mem_tokens {token : Int} : token ∈ s.tokens ↔ s.HasToken token := by
  simp only [tokens, HasToken, List.mem_flatMap, Prod.exists,
    ExtTreeMap.mem_toList_iff_getElem?_eq_some]

structure Registry (s : DistributedAbilityManagerService) : Prop where
  nonempty : ∀ (accessToken : Nat) (tokens : List Int), s.tokenMap[accessToken]? = some tokens →
    tokens ≠ []
  nodup : ∀ (accessToken : Nat) (tokens : List Int), s.tokenMap[accessToken]? = some tokens →
    tokens.Nodup
  bounded : ∀ (accessToken : Nat) (tokens : List Int), s.tokenMap[accessToken]? = some tokens →
    tokens.length ≤ maxRegisterNum
  disjoint : ∀ (a b : Nat) (v w : List Int) (token : Int), s.tokenMap[a]? = some v →
    s.tokenMap[b]? = some w → token ∈ v → token ∈ w → a = b
  callbacks : ∀ (token : Int) (info : Option NotifierInfo), s.callbackMap[token]? = some info →
    s.HasToken token ∧ ∃ i, info = some i ∧ i.isNotifierMapEmpty = false

theorem registry_init (token : Int) : Registry { token := token } where
  nonempty accessToken tokens h := by simp at h
  nodup accessToken tokens h := by simp at h
  bounded accessToken tokens h := by simp at h
  disjoint a b v w token h := by simp at h
  callbacks token info h := by simp at h

theorem isTokenRegistered_iff {accessToken : Nat} {token : Int} :
    s.isTokenRegistered accessToken token = true ↔
      ∃ tokens, s.tokenMap[accessToken]? = some tokens ∧ token ∈ tokens := by
  unfold isTokenRegistered
  split
  · rename_i tokens ht
    simp [ht]
  · rename_i ht
    simp [ht]

theorem hasToken_of_isTokenRegistered {accessToken : Nat} {token : Int}
    (h : s.isTokenRegistered accessToken token = true) : s.HasToken token :=
  ⟨accessToken, isTokenRegistered_iff.mp h⟩

theorem Registry.tokens_nodup (h : s.Registry) : s.tokens.Nodup := by
  refine List.nodup_flatMap.mpr ⟨fun e he => ?_, ?_⟩
  · exact h.nodup e.1 e.2 (ExtTreeMap.mem_toList_iff_getElem?_eq_some.mp he)
  · refine List.Pairwise.imp_of_mem ?_ ExtTreeMap.distinct_keys_toList
    intro e e' he he' hne token hm hm'
    refine hne ?_
    rw [h.disjoint e.1 e'.1 e.2 e'.2 token (ExtTreeMap.mem_toList_iff_getElem?_eq_some.mp he)
      (ExtTreeMap.mem_toList_iff_getElem?_eq_some.mp he') hm hm']
    exact Std.ReflCmp.compare_self

/-! ### Erasing a token -/

/-- A vector without the token, when something is left of it. -/
def withoutToken (token : Int) (tokens : List Int) : Option (List Int) :=
  if (tokens.filter fun n => n ≠ token).isEmpty then none
  else some (tokens.filter fun n => n ≠ token)

theorem filter_eq_self_of_not_mem {token : Int} {tokens : List Int} (h : token ∉ tokens) :
    tokens.filter (fun n => n ≠ token) = tokens := by
  refine List.filter_eq_self.mpr fun n hn => decide_eq_true ?_
  rintro rfl
  exact h hn

/-- A vector that does not hold the token, in either state of the loop. -/
theorem eraseTokenFrom_of_not_mem {token : Int} {tokens : List Int} (h : token ∉ tokens)
    (hne : tokens ≠ []) (left : Bool) (accessToken : Nat) :
    eraseTokenFrom token left accessToken tokens = (left, some tokens) := by
  unfold eraseTokenFrom
  cases left with
  | true => rfl
  | false => simp only [Bool.false_eq_true, if_false, filter_eq_self_of_not_mem h,
      List.isEmpty_iff, hne]

theorem withoutToken_of_not_mem {token : Int} {tokens : List Int} (h : token ∉ tokens)
    (hne : tokens ≠ []) : withoutToken token tokens = some tokens := by
  unfold withoutToken
  rw [filter_eq_self_of_not_mem h, if_neg (by simpa using hne)]

/-- No vector is empty. -/
def NoEmpty (s : DistributedAbilityManagerService) : Prop :=
  ∀ (accessToken : Nat) (tokens : List Int), s.tokenMap[accessToken]? = some tokens → tokens ≠ []

/-- No two vectors hold the token. -/
def InOneVector (s : DistributedAbilityManagerService) (token : Int) : Prop :=
  ∀ (a b : Nat) (v w : List Int), s.tokenMap[a]? = some v → s.tokenMap[b]? = some w →
    token ∈ v → token ∈ w → a = b

/-- **The loop erases the token, and nothing else.**  Only the vector that holds the token can
become empty, so the loop has not been left when it comes to it. -/
theorem eraseToken_getElem? (hne : s.NoEmpty) {token : Int} (hone : s.InOneVector token)
    (accessToken : Nat) :
    (s.eraseToken token).tokenMap[accessToken]? =
      s.tokenMap[accessToken]?.bind (withoutToken token) := by
  unfold eraseToken
  cases ha : s.tokenMap[accessToken]? with
  | none => exact ExtTreeMap.walk_getElem?_none ha
  | some tokens =>
      by_cases hm : token ∈ tokens
      · obtain ⟨left, hl, hw⟩ := ExtTreeMap.walk_getElem?_some (f := eraseTokenFrom token)
          (Q := fun left => left = false) ha rfl fun left k w hk hka hl => by
            have hw : token ∉ w := fun hw => hka (hone k accessToken w tokens hk ha hw hm)
            rw [eraseTokenFrom_of_not_mem hw (hne k w hk)]
            exact hl
        rw [hw, hl]
        simp only [eraseTokenFrom, withoutToken, Bool.false_eq_true, if_false, Option.bind_some]
        split <;> rfl
      · obtain ⟨left, -, hw⟩ := ExtTreeMap.walk_getElem?_some (f := eraseTokenFrom token)
          (Q := fun _ => True) (s := false) ha trivial fun _ _ _ _ _ _ => trivial
        have hv := hne accessToken tokens ha
        rw [hw, eraseTokenFrom_of_not_mem hm hv, Option.bind_some, withoutToken_of_not_mem hm hv]

/-- In any state the loop keeps a vector, or takes the token out of it; none is left empty. -/
theorem of_eraseToken_getElem? (hne : s.NoEmpty) {token : Int} {accessToken : Nat}
    {tokens : List Int} (h : (s.eraseToken token).tokenMap[accessToken]? = some tokens) :
    tokens ≠ [] ∧ ∃ old, s.tokenMap[accessToken]? = some old ∧ ∀ t ∈ tokens, t ∈ old := by
  unfold eraseToken at h
  cases ha : s.tokenMap[accessToken]? with
  | none =>
      rw [ExtTreeMap.walk_getElem?_none ha] at h
      cases h
  | some old =>
      obtain ⟨left, -, hw⟩ := ExtTreeMap.walk_getElem?_some (f := eraseTokenFrom token)
        (Q := fun _ => True) (s := false) ha trivial fun _ _ _ _ _ _ => trivial
      rw [hw] at h
      simp only [eraseTokenFrom] at h
      split at h
      · cases h
        exact ⟨hne accessToken tokens ha, tokens, rfl, fun _ ht => ht⟩
      split at h
      · cases h
      · rename_i he
        cases h
        exact ⟨by simpa using he, old, rfl, fun _ ht => List.mem_of_mem_filter ht⟩

theorem NoEmpty.eraseToken (hne : s.NoEmpty) (token : Int) : (s.eraseToken token).NoEmpty :=
  fun _ _ hv => (of_eraseToken_getElem? hne hv).1

theorem InOneVector.eraseToken {token : Int} (hone : s.InOneVector token) (hne : s.NoEmpty)
    (token' : Int) : (s.eraseToken token').InOneVector token := by
  intro a b v w hv hw hm hm'
  obtain ⟨-, v', hv', hsub⟩ := of_eraseToken_getElem? hne hv
  obtain ⟨-, w', hw', hsub'⟩ := of_eraseToken_getElem? hne hw
  exact hone a b v' w' hv' hw' (hsub token hm) (hsub' token hm')

theorem Registry.inOneVector (h : s.Registry) (token : Int) : s.InOneVector token :=
  fun a b v w hv hw hm hm' => h.disjoint a b v w token hv hw hm hm'

theorem withoutToken_eq_some {token : Int} {tokens rest : List Int}
    (h : withoutToken token tokens = some rest) :
    rest = tokens.filter (fun n => n ≠ token) ∧ rest ≠ [] := by
  unfold withoutToken at h
  split at h
  · cases h
  · rename_i hne
    cases h
    exact ⟨rfl, by simpa using hne⟩

/-- What is left: every token but the one that was erased. -/
theorem hasToken_eraseToken (hne : s.NoEmpty) {token token' : Int} (hone : s.InOneVector token) :
    (s.eraseToken token).HasToken token' ↔ s.HasToken token' ∧ token' ≠ token := by
  unfold HasToken
  constructor
  · rintro ⟨a, v, hv, hm⟩
    rw [eraseToken_getElem? hne hone] at hv
    obtain ⟨w, hw, hr⟩ := Option.bind_eq_some_iff.mp hv
    rw [(withoutToken_eq_some hr).1] at hm
    obtain ⟨hm, hne⟩ := List.mem_filter.mp hm
    exact ⟨⟨a, w, hw, hm⟩, of_decide_eq_true hne⟩
  · rintro ⟨⟨a, v, hv, hm⟩, ht⟩
    have hmem : token' ∈ v.filter fun n => n ≠ token :=
      List.mem_filter.mpr ⟨hm, decide_eq_true ht⟩
    refine ⟨a, v.filter (fun n => n ≠ token), ?_, hmem⟩
    rw [eraseToken_getElem? hne hone, hv, Option.bind_some, withoutToken, if_neg]
    rw [List.isEmpty_iff]
    exact List.ne_nil_of_mem hmem

/-- Erasing the notifiers of a token: there is no null pointer that would be kept. -/
theorem Registry.eraseCallback_eq (h : s.Registry) (token : Int) :
    (s.eraseCallback token).1 = { s with callbackMap := s.callbackMap.erase token } := by
  unfold eraseCallback
  split
  · rfl
  · rename_i hn
    have hnone : s.callbackMap[token]? = none := by
      cases hc : s.callbackMap[token]? with
      | none => rfl
      | some info =>
          obtain ⟨-, i, rfl, -⟩ := h.callbacks token info hc
          exact absurd hc (hn i)
    rw [ExtTreeMap.erase_eq_self hnone]

/-- The state after a token and its notifiers were removed. -/
def removed (s : DistributedAbilityManagerService) (token : Int) :
    DistributedAbilityManagerService :=
  (s.eraseCallback token).1.eraseToken token

/-- A removal takes out the token with its notifiers, and the vector that it empties. -/
structure Removes (token : Int) (s s' : DistributedAbilityManagerService) : Prop where
  had : s.HasToken token
  tokens : ∀ accessToken : Nat, s'.tokenMap[accessToken]? =
    s.tokenMap[accessToken]?.bind (withoutToken token)
  callbacks : s'.callbackMap = s.callbackMap.erase token
  counter : s'.token = s.token

theorem Registry.removed_tokenMap (h : s.Registry) (token : Int) :
    (s.removed token).tokenMap = (s.eraseToken token).tokenMap := by
  rw [removed, h.eraseCallback_eq]
  rfl

theorem Registry.removes (h : s.Registry) {token : Int} (ht : s.HasToken token) :
    Removes token s (s.removed token) where
  had := ht
  tokens accessToken := by
    rw [h.removed_tokenMap]
    exact eraseToken_getElem? h.nonempty (h.inOneVector token) accessToken
  callbacks := by
    rw [removed, h.eraseCallback_eq]
    rfl
  counter := by
    rw [removed, h.eraseCallback_eq]
    rfl

theorem Registry.hasToken_removed (h : s.Registry) {token token' : Int} :
    (s.removed token).HasToken token' ↔ s.HasToken token' ∧ token' ≠ token := by
  rw [← hasToken_eraseToken h.nonempty (h.inOneVector token)]
  simp only [HasToken, h.removed_tokenMap]

theorem Registry.removed_inv (h : s.Registry) {token : Int} (ht : s.HasToken token) :
    (s.removed token).Registry := by
  have hr := h.removes ht
  have hold : ∀ (a : Nat) (v : List Int), (s.removed token).tokenMap[a]? = some v →
      ∃ w, s.tokenMap[a]? = some w ∧ v = w.filter (fun n => n ≠ token) ∧ v ≠ [] := by
    intro a v hv
    rw [hr.tokens] at hv
    obtain ⟨w, hw, hv⟩ := Option.bind_eq_some_iff.mp hv
    exact ⟨w, hw, withoutToken_eq_some hv⟩
  refine ⟨fun a v hv => ?_, fun a v hv => ?_, fun a v hv => ?_, fun a b v w t hv hw hm hm' => ?_,
    fun t info hc => ?_⟩
  · obtain ⟨w, -, -, hne⟩ := hold a v hv
    exact hne
  · obtain ⟨w, hw, rfl, -⟩ := hold a v hv
    exact (h.nodup a w hw).filter _
  · obtain ⟨w, hw, rfl, -⟩ := hold a v hv
    exact Nat.le_trans (List.length_filter_le ..) (h.bounded a w hw)
  · obtain ⟨v', hv', rfl, -⟩ := hold a v hv
    obtain ⟨w', hw', rfl, -⟩ := hold b w hw
    exact h.disjoint a b v' w' t hv' hw' (List.mem_of_mem_filter hm) (List.mem_of_mem_filter hm')
  · rw [hr.callbacks, ExtTreeMap.getElem?_erase] at hc
    split at hc
    · cases hc
    · rename_i hne
      obtain ⟨ht', hi⟩ := h.callbacks t info hc
      refine ⟨h.hasToken_removed.mpr ⟨ht', ?_⟩, hi⟩
      rintro rfl
      exact hne Std.ReflCmp.compare_self

@[simp] theorem eraseCallback_tokenMap (token : Int) :
    (s.eraseCallback token).1.tokenMap = s.tokenMap := by
  unfold eraseCallback
  split <;> rfl

/-! ### Registering a token -/

theorem lt_of_not_isExceeded {accessToken : Nat} {tokens : List Int}
    (h : s.isExceededRegisterMaxNum accessToken = false)
    (ht : s.tokenMap[accessToken]? = some tokens) : tokens.length < maxRegisterNum := by
  unfold isExceededRegisterMaxNum at h
  rw [ht] at h
  exact Nat.lt_of_not_le (of_decide_eq_false h)

theorem emplaceToken_getElem? (accessToken a : Nat) (token : Int) :
    (s.emplaceToken accessToken token).tokenMap[a]? =
      if accessToken = a then some (s.tokenMap[accessToken]?.getD [] ++ [token])
      else s.tokenMap[a]? := by
  simp only [emplaceToken, ExtTreeMap.getElem?_insert, Std.LawfulEqCmp.compare_eq_iff_eq]

theorem NoEmpty.emplaceToken (h : s.NoEmpty) (accessToken : Nat) (token : Int) :
    (s.emplaceToken accessToken token).NoEmpty := by
  intro a v hv
  rw [emplaceToken_getElem?] at hv
  split at hv
  · cases hv
    exact List.append_ne_nil_of_right_ne_nil _ (List.cons_ne_nil _ _)
  · exact h a v hv

theorem hasToken_emplaceToken {accessToken : Nat} {token token' : Int} :
    (s.emplaceToken accessToken token).HasToken token' ↔ s.HasToken token' ∨ token' = token := by
  constructor
  · rintro ⟨a, v, hv, hm⟩
    rw [emplaceToken_getElem?] at hv
    split at hv
    · cases hv
      rcases List.mem_append.mp hm with hm | hm
      · cases ht : s.tokenMap[accessToken]? with
        | none => rw [ht] at hm; cases hm
        | some tokens => rw [ht] at hm; exact .inl ⟨accessToken, tokens, ht, hm⟩
      · exact .inr (List.mem_singleton.mp hm)
    · exact .inl ⟨a, v, hv, hm⟩
  · rintro (⟨a, v, hv, hm⟩ | rfl)
    · by_cases ha : accessToken = a
      · subst ha
        refine ⟨accessToken, _, by rw [emplaceToken_getElem?, if_pos rfl], ?_⟩
        rw [hv]
        exact List.mem_append_left _ hm
      · exact ⟨a, v, by rw [emplaceToken_getElem?, if_neg ha]; exact hv, hm⟩
    · exact ⟨accessToken, _, by rw [emplaceToken_getElem?, if_pos rfl],
        List.mem_append_right _ (List.mem_singleton_self _)⟩

theorem Registry.emplace_inv (h : s.Registry) {accessToken : Nat} {token : Int}
    (hex : s.isExceededRegisterMaxNum accessToken = false) (hnew : ¬ s.HasToken token) :
    (s.emplaceToken accessToken token).Registry := by
  -- the vectors after the step: an old one, or the one that got the token
  have hold : ∀ (a : Nat) (v : List Int), (s.emplaceToken accessToken token).tokenMap[a]? = some v →
      (accessToken ≠ a ∧ s.tokenMap[a]? = some v) ∨
      (accessToken = a ∧ ∃ w, v = w ++ [token] ∧ w.Nodup ∧ w.length < maxRegisterNum ∧
        ∀ t ∈ w, ∃ w', s.tokenMap[a]? = some w' ∧ t ∈ w') := by
    intro a v hv
    rw [emplaceToken_getElem?] at hv
    split at hv
    · rename_i ha
      subst ha
      cases hv
      refine .inr ⟨rfl, _, rfl, ?_⟩
      cases ht : s.tokenMap[accessToken]? with
      | none => exact ⟨List.nodup_nil, by decide, fun t ht => absurd ht List.not_mem_nil⟩
      | some w =>
          exact ⟨h.nodup _ _ ht, lt_of_not_isExceeded hex ht, fun t hm => ⟨w, rfl, hm⟩⟩
    · rename_i ha
      exact .inl ⟨ha, hv⟩
  refine ⟨fun a v hv => ?_, fun a v hv => ?_, fun a v hv => ?_, fun a b v w t hv hw hm hm' => ?_,
    fun t info hc => ?_⟩
  · rcases hold a v hv with ⟨-, hv⟩ | ⟨-, w, rfl, -⟩
    · exact h.nonempty a v hv
    · simp
  · rcases hold a v hv with ⟨-, hv⟩ | ⟨-, w, rfl, hnd, -, hw⟩
    · exact h.nodup a v hv
    · refine List.nodup_append.mpr ⟨hnd, List.nodup_singleton _, fun t ht t' ht' => ?_⟩
      obtain rfl := List.mem_singleton.mp ht'
      rintro rfl
      obtain ⟨w', hw', hm⟩ := hw t ht
      exact hnew ⟨a, w', hw', hm⟩
  · rcases hold a v hv with ⟨-, hv⟩ | ⟨-, w, rfl, -, hlt, -⟩
    · exact h.bounded a v hv
    · rw [List.length_append]
      exact hlt
  · -- two vectors with one token: both old, or one of them got the token
    rcases hold a v hv with ⟨-, hv'⟩ | ⟨rfl, w₁, rfl, -, -, hw₁⟩ <;>
      rcases hold b w hw with ⟨-, hw'⟩ | ⟨rfl, w₂, rfl, -, -, hw₂⟩
    · exact h.disjoint a b v w t hv' hw' hm hm'
    · rcases List.mem_append.mp hm' with hm' | hm'
      · obtain ⟨v₂, hv₂, hm'⟩ := hw₂ t hm'
        exact h.disjoint a _ v v₂ t hv' hv₂ hm hm'
      · obtain rfl := List.mem_singleton.mp hm'
        exact absurd ⟨a, v, hv', hm⟩ hnew
    · rcases List.mem_append.mp hm with hm | hm
      · obtain ⟨v₁, hv₁, hm⟩ := hw₁ t hm
        exact h.disjoint _ b v₁ w t hv₁ hw' hm hm'
      · obtain rfl := List.mem_singleton.mp hm
        exact absurd ⟨b, w, hw', hm'⟩ hnew
    · rfl
  · obtain ⟨ht, hi⟩ := h.callbacks t info hc
    exact ⟨hasToken_emplaceToken.mpr (.inl ht), hi⟩

/-! ### Notifiers -/

/-- A step that leaves the tokens, and whose notifiers are under registered tokens. -/
theorem Registry.callbacks_inv (h : s.Registry) {callbackMap : Map Int (Option NotifierInfo)}
    (hc : ∀ (token : Int) (info : Option NotifierInfo), callbackMap[token]? = some info →
      s.HasToken token ∧ ∃ i, info = some i ∧ i.isNotifierMapEmpty = false) :
    Registry { s with callbackMap := callbackMap } :=
  ⟨h.nonempty, h.nodup, h.bounded, h.disjoint, hc⟩

/-- A notifier is registered under a token, beside the notifiers that are there. -/
theorem Registry.setNotifier_eq (h : s.Registry) (token : Int) (cbType : String)
    (notifier : RemoteObject) (errNullObject : Int) :
    (s.setNotifier token cbType notifier errNullObject).service =
      { s with callbackMap := s.callbackMap.insert token (some
          (NotifierInfo.setNotifier (s.callbackMap[token]?.join.getD {}) cbType notifier)) } := by
  unfold setNotifier
  split
  · rename_i hn
    obtain ⟨-, i, hi, -⟩ := h.callbacks token none hn
    cases hi
  · rename_i info hi
    rw [hi]
    rfl
  · rename_i hn
    rw [hn]
    rfl

theorem Registry.insert_inv (h : s.Registry) {token : Int} (ht : s.HasToken token)
    {info : NotifierInfo} (hi : info.isNotifierMapEmpty = false) :
    Registry { s with callbackMap := s.callbackMap.insert token (some info) } := by
  refine h.callbacks_inv fun t i hc => ?_
  rw [ExtTreeMap.getElem?_insert] at hc
  split at hc
  · rename_i he
    obtain rfl := Std.LawfulEqCmp.compare_eq_iff_eq.mp he
    cases hc
    exact ⟨ht, info, rfl, hi⟩
  · exact h.callbacks t i hc

theorem Registry.set_inv (h : s.Registry) {token : Int} (ht : s.HasToken token) (cbType : String)
    (notifier : RemoteObject) (errNullObject : Int) :
    (s.setNotifier token cbType notifier errNullObject).service.Registry := by
  rw [h.setNotifier_eq]
  refine h.insert_inv ht ?_
  simp [NotifierInfo.setNotifier, NotifierInfo.isNotifierMapEmpty]

/-- Its block goes through no null pointer. -/
theorem Registry.delete_inv (h : s.Registry) (token : Int) (cbType : String) :
    ∃ r, s.deleteNotifier token cbType = some r ∧ r.1.Registry := by
  unfold deleteNotifier
  split
  · exact ⟨_, rfl, h⟩
  · rename_i hn
    obtain ⟨-, i, hi, -⟩ := h.callbacks token none hn
    cases hi
  · rename_i info hc
    refine ⟨_, rfl, ?_⟩
    split
    · refine h.callbacks_inv fun t i hc => ?_
      rw [ExtTreeMap.getElem?_erase] at hc
      split at hc
      · cases hc
      · exact h.callbacks t i hc
    · rename_i he
      exact h.insert_inv (h.callbacks token _ hc).1 (by simpa using he)

theorem findNotifier_eq_some {notifier : RemoteObject} {token : Int} :
    ∀ {l : List (Int × Option NotifierInfo)}, findNotifier notifier l = some token →
      ∃ info, (token, some info) ∈ l ∧ info.queryNotifier notifier = true
  | (_, none) :: _, h => by cases h
  | (token', some info) :: rest, h => by
      unfold findNotifier at h
      split at h
      · rename_i hq
        cases h
        exact ⟨info, List.mem_cons_self, hq⟩
      · obtain ⟨info', hm, hq⟩ := findNotifier_eq_some h
        exact ⟨info', List.mem_cons_of_mem _ hm, hq⟩

theorem queryTokenByNotifier_eq_some {notifier : RemoteObject} {token : Int}
    (h : s.queryTokenByNotifier notifier = some token) :
    ∃ info, s.callbackMap[token]? = some (some info) ∧ info.queryNotifier notifier = true := by
  obtain ⟨info, hm, hq⟩ := findNotifier_eq_some h
  exact ⟨info, ExtTreeMap.mem_toList_iff_getElem?_eq_some.mp hm, hq⟩

theorem queryNotifier_iff {info : NotifierInfo} {notifier : RemoteObject} :
    info.queryNotifier notifier = true ↔
      ∃ cbType : String, info.notifierMap[cbType]? = some notifier := by
  simp only [NotifierInfo.queryNotifier, List.any_eq_true, Prod.exists,
    ExtTreeMap.mem_toList_iff_getElem?_eq_some, decide_eq_true_eq]
  constructor
  · rintro ⟨cbType, notifier', hn, rfl⟩
    exact ⟨cbType, hn⟩
  · rintro ⟨cbType, hn⟩
    exact ⟨cbType, notifier, hn, rfl⟩

theorem Registry.hasToken_of_query (h : s.Registry) {notifier : RemoteObject} {token : Int}
    (hq : s.queryTokenByNotifier notifier = some token) : s.HasToken token := by
  obtain ⟨info, hc, -⟩ := queryTokenByNotifier_eq_some hq
  exact (h.callbacks token _ hc).1

/-- A call that is refused, or one that gives out the next token. -/
theorem register_cases (s : DistributedAbilityManagerService) (continuationMode : Option Int)
    (accessToken : Nat) :
    (s.register continuationMode accessToken).2 = s ∨
      (s.register continuationMode accessToken).1.1 = errOk ∧
        s.isExceededRegisterMaxNum accessToken = false ∧
        (s.register continuationMode accessToken).2 =
          s.storeToken.emplaceToken accessToken s.nextToken := by
  unfold register
  split
  · exact .inl rfl
  split
  · exact .inl rfl
  · rename_i hex
    exact .inr ⟨rfl, Bool.not_eq_true _ ▸ hex, rfl⟩

end DistributedAbilityManagerService

open DistributedAbilityManagerService

/-- What a call can do: it is refused and leaves everything, or it makes the one change that it
is for. -/
inductive AbilityStep (h : AbilityHost) : AbilityOp → AbilityHost → Prop where
  | refused (op : AbilityOp) : AbilityStep h op h
  | register (continuationMode : Option Int) (accessToken : Nat)
      (hok : (h.service.register continuationMode accessToken).1.1 = errOk)
      (hex : h.service.isExceededRegisterMaxNum accessToken = false) :
      AbilityStep h (.register continuationMode accessToken)
        ⟨h.service.storeToken.emplaceToken accessToken h.service.nextToken, h.recipients⟩
  | unregister (postTask : Bool) (accessToken : Nat) (token : Int)
      (ht : h.service.isTokenRegistered accessToken token = true) :
      AbilityStep h (.unregister postTask accessToken token)
        (h.leave (h.service.removed token) (h.service.eraseCallback token).2)
  | notifierDied (postTask : Bool) (notifier : RemoteObject) (token : Int)
      (hq : h.service.queryTokenByNotifier notifier = some token) :
      AbilityStep h (.notifierDied postTask notifier)
        (h.leave (h.service.removed token) (h.service.eraseCallback token).2)
  | set (errNullObject : Int) (accessToken : Nat) (token : Int) (cbType : String)
      (notifier : RemoteObject) (hc : isCallbackType cbType = true)
      (ht : h.service.isTokenRegistered accessToken token = true)
      (hn : h.service.isNotifierRegisteredLocked token cbType = false) :
      AbilityStep h
        (.registerDeviceSelectionCallback errNullObject accessToken token cbType notifier)
        (h.leave (h.service.setNotifier token cbType notifier errNullObject).service
          (h.service.setNotifier token cbType notifier errNullObject).effects)
  | delete (accessToken : Nat) (token : Int) (cbType : String)
      (r : DistributedAbilityManagerService × List AbilityEffect)
      (hc : isCallbackType cbType = true)
      (ht : h.service.isTokenRegistered accessToken token = true)
      (hn : h.service.isNotifierRegisteredLocked token cbType = true)
      (hr : h.service.deleteNotifier token cbType = some r) :
      AbilityStep h (.unregisterDeviceSelectionCallback accessToken token cbType) (h.leave r.1 r.2)

namespace AbilityHost

variable {h h' : AbilityHost} {op : AbilityOp}

/-- The task of `HandleDisconnectAbility` is no recipient. -/
theorem leave_disconnect (h : AbilityHost) (service : DistributedAbilityManagerService)
    (effects : List AbilityEffect) (postTask : Bool) :
    h.leave service (effects ++ if postTask then [.disconnectAbility] else []) =
      h.leave service effects := by
  unfold leave
  rw [List.foldl_append]
  cases postTask <;> rfl

theorem step_of_apply (hs : op.apply h = some h') : AbilityStep h op h' := by
  cases op with
  | register continuationMode accessToken =>
      cases hs
      rcases h.service.register_cases continuationMode accessToken with hr | ⟨hok, hex, hr⟩
      · rw [hr]
        exact .refused _
      · rw [hr]
        exact .register continuationMode accessToken hok hex
  | unregister postTask accessToken token =>
      cases hs
      unfold DistributedAbilityManagerService.unregister
      split
      · exact .refused _
      rename_i ht
      rw [leave_disconnect]
      exact .unregister postTask accessToken token (by simpa using ht)
  | registerDeviceSelectionCallback errNullObject accessToken token cbType notifier =>
      cases hs
      unfold DistributedAbilityManagerService.registerDeviceSelectionCallback
      split
      · exact .refused _
      split
      · exact .refused _
      split
      · exact .refused _
      rename_i hc ht hn
      exact .set errNullObject accessToken token cbType notifier (by simpa using hc)
        (by simpa using ht) (by simpa using hn)
  | unregisterDeviceSelectionCallback accessToken token cbType =>
      obtain ⟨o, ho, rfl⟩ := Option.map_eq_some_iff.mp hs
      unfold DistributedAbilityManagerService.unregisterDeviceSelectionCallback at ho
      split at ho
      · cases ho
        exact .refused _
      split at ho
      · cases ho
        exact .refused _
      split at ho
      · cases ho
        exact .refused _
      rename_i hc ht hn
      obtain ⟨r, hr, rfl⟩ := Option.map_eq_some_iff.mp ho
      exact .delete accessToken token cbType r (by simpa using hc) (by simpa using ht)
        (by simpa using hn) hr
  | notifierDied postTask notifier =>
      cases hs
      unfold DistributedAbilityManagerService.runNotifierDied
      split
      · exact .refused _
      rename_i token hq
      rw [leave_disconnect]
      exact .notifierDied postTask notifier token hq

theorem registry_step (hreg : h.service.Registry) (hs : AbilityStep h op h')
    (hnew : ∀ continuationMode accessToken, op = .register continuationMode accessToken →
      (h.service.register continuationMode accessToken).1.1 = errOk →
        ¬ h.service.HasToken h.service.nextToken) : h'.service.Registry := by
  cases hs with
  | refused => exact hreg
  | register continuationMode accessToken hok hex =>
      exact Registry.emplace_inv (s := h.service.storeToken)
        ⟨hreg.nonempty, hreg.nodup, hreg.bounded, hreg.disjoint, hreg.callbacks⟩ hex
        (hnew _ _ rfl hok)
  | unregister postTask accessToken token ht =>
      exact hreg.removed_inv (hasToken_of_isTokenRegistered ht)
  | notifierDied postTask notifier token hq => exact hreg.removed_inv (hreg.hasToken_of_query hq)
  | set errNullObject accessToken token cbType notifier hc ht hn =>
      exact hreg.set_inv (hasToken_of_isTokenRegistered ht) cbType notifier errNullObject
  | delete accessToken token cbType r hc ht hn hr =>
      obtain ⟨r', hr', hinv⟩ := hreg.delete_inv token cbType
      obtain rfl := Option.some.inj (hr.symm.trans hr')
      exact hinv

/-- No token is ahead of the counter. -/
def Counted (s : DistributedAbilityManagerService) : Prop := ∀ token, s.HasToken token →
  token ≤ s.token

theorem nextToken_of_lt {s : DistributedAbilityManagerService} (h : s.token < maxTokenNum) :
    s.nextToken = s.token + 1 := if_neg (by omega)

theorem Counted.not_hasToken {s : DistributedAbilityManagerService} (hc : Counted s)
    (h : s.token < maxTokenNum) : ¬ s.HasToken s.nextToken := by
  intro ht
  have := hc _ ht
  rw [nextToken_of_lt h] at this
  omega

theorem Counted.of_removes {s s' : DistributedAbilityManagerService} {token : Int}
    (hc : Counted s) (hr : Removes token s s') : Counted s' := by
  rintro t ⟨a, v, hv, hm⟩
  rw [hr.tokens] at hv
  obtain ⟨w, hw, hv⟩ := Option.bind_eq_some_iff.mp hv
  rw [(withoutToken_eq_some hv).1] at hm
  rw [hr.counter]
  exact hc t ⟨a, w, hw, List.mem_of_mem_filter hm⟩

theorem setNotifier_counted {s : DistributedAbilityManagerService} (hreg : s.Registry)
    (hc : Counted s) (token : Int) (cbType : String) (notifier : RemoteObject)
    (errNullObject : Int) :
    Counted (s.setNotifier token cbType notifier errNullObject).service := by
  rw [hreg.setNotifier_eq]
  exact hc

theorem deleteNotifier_counted {s : DistributedAbilityManagerService} (hc : Counted s)
    {token : Int} {cbType : String} {r : DistributedAbilityManagerService × List AbilityEffect}
    (hr : s.deleteNotifier token cbType = some r) : Counted r.1 := by
  unfold deleteNotifier at hr
  split at hr
  · cases hr
    exact hc
  · cases hr
  · cases hr
    exact hc

theorem counted_step (hreg : h.service.Registry) (hc : Counted h.service) (hnw : op.NoWrap h)
    (hs : AbilityStep h op h') : Counted h'.service := by
  cases hs with
  | refused => exact hc
  | register continuationMode accessToken hok hex =>
      have hnext := nextToken_of_lt (hnw hok)
      intro t ht
      show t ≤ h.service.nextToken
      rcases hasToken_emplaceToken.mp ht with ht | rfl
      · have := hc t ht
        omega
      · exact Int.le_refl _
  | unregister postTask accessToken token ht =>
      exact hc.of_removes (hreg.removes (hasToken_of_isTokenRegistered ht))
  | notifierDied postTask notifier token hq =>
      exact hc.of_removes (hreg.removes (hreg.hasToken_of_query hq))
  | set errNullObject accessToken token cbType notifier hcb ht hn =>
      exact setNotifier_counted hreg hc token cbType notifier errNullObject
  | delete accessToken token cbType r hcb ht hn hr => exact deleteNotifier_counted hc hr

theorem counted_init (token : Int) : Counted { token := token } := by
  rintro t ⟨a, v, hv, -⟩
  simp at hv

/-- A step keeps both, while the counter does not wrap. -/
theorem inv_step (hi : h.service.Registry ∧ Counted h.service) (hnw : op.NoWrap h)
    (hs : AbilityStep h op h') : h'.service.Registry ∧ Counted h'.service := by
  obtain ⟨hreg, hc⟩ := hi
  refine ⟨registry_step hreg hs ?_, counted_step hreg hc hnw hs⟩
  rintro continuationMode accessToken rfl hok
  exact hc.not_hasToken (hnw hok)

theorem registry_of_reach {token : Int} (hr : Runs.Reach AbilityOp.apply (fun h op => op.NoWrap h)
    { service := { token := token } } h) : h.service.Registry ∧ Counted h.service :=
  hr.invariant (P := fun h => h.service.Registry ∧ Counted h.service)
    ⟨registry_init token, counted_init token⟩ fun _ _ _ hi hnw hs =>
      inv_step hi hnw (step_of_apply hs)

end AbilityHost

/-- **The token registry.**  In every state of a run in which the counter does not wrap, no token
occurs twice in the vectors of `tokenMap_`, none of which is empty or longer than
`MAX_REGISTER_NUM`; a notifier is under a registered token, and no entry of `callbackMap_` is
null or without one.  A successful `Unregister`, and the task of a notifier that is found,
remove their token and nothing else; the token that is found is one under which the notifier is
registered. -/
theorem token_registry {token₀ : Int} {h : AbilityHost}
    (hr : Runs.Reach AbilityOp.apply (fun h op => op.NoWrap h)
      { service := { token := token₀ } } h) :
    h.service.tokens.Nodup ∧
    (∀ (accessToken : Nat) (tokens : List Int), h.service.tokenMap[accessToken]? = some tokens →
      tokens ≠ [] ∧ tokens.length ≤ maxRegisterNum) ∧
    (∀ (token : Int) (info : Option NotifierInfo), h.service.callbackMap[token]? = some info →
      token ∈ h.service.tokens ∧ ∃ i, info = some i ∧ i.isNotifierMapEmpty = false) ∧
    (∀ postTask accessToken token,
      (h.service.unregister postTask accessToken token).result = errOk →
      Removes token h.service (h.service.unregister postTask accessToken token).service) ∧
    ∀ postTask notifier token, h.service.queryTokenByNotifier notifier = some token →
      (∃ (info : NotifierInfo) (cbType : String),
        h.service.callbackMap[token]? = some (some info) ∧
        info.notifierMap[cbType]? = some notifier) ∧
      Removes token h.service (h.service.runNotifierDied postTask notifier).1 := by
  obtain ⟨hreg, -⟩ := AbilityHost.registry_of_reach hr
  refine ⟨hreg.tokens_nodup, fun a v hv => ⟨hreg.nonempty a v hv, hreg.bounded a v hv⟩,
    fun token info hc => ?_, fun postTask accessToken token hok => ?_,
    fun postTask notifier token hq => ?_⟩
  · obtain ⟨ht, hi⟩ := hreg.callbacks token info hc
    exact ⟨mem_tokens.mpr ht, hi⟩
  · unfold unregister at hok ⊢
    split
    · rename_i ht
      rw [if_pos ht] at hok
      exact absurd hok (show tokenHasNotRegistered ≠ errOk by decide)
    · rename_i ht
      exact hreg.removes (hasToken_of_isTokenRegistered (by simpa using ht))
  · obtain ⟨info, hi, hholds⟩ := queryTokenByNotifier_eq_some hq
    obtain ⟨cbType, hn⟩ := queryNotifier_iff.mp hholds
    refine ⟨⟨info, cbType, hi, hn⟩, ?_⟩
    unfold runNotifierDied
    rw [hq]
    exact hreg.removes (hreg.hasToken_of_query hq)

/-- Two tokens of one application and one of another, each with a notifier of its own; the notifier
of token 2 dies, and the other tokens and notifiers stay. -/
theorem token_registry_two : ∃ h : AbilityHost, h.service.tokens = [1, 2, 3] ∧
    h.service.queryTokenByNotifier 7 = some 2 ∧
    ∃ s, (h.service.runNotifierDied true 7).1 = s ∧ Removes 2 h.service s ∧ s.tokens = [1, 3] ∧
      s.callbackMap[(2 : Int)]? = none ∧
      (∃ info, s.callbackMap[(1 : Int)]? = some (some info) ∧
        info.notifierMap[eventConnect]? = some 9) ∧
      ∃ info, s.callbackMap[(3 : Int)]? = some (some info) ∧
        info.notifierMap[eventDisconnect]? = some 8 := by
  have hr : Runs.Reach AbilityOp.apply (fun h op => op.NoWrap h) { service := { token := 0 } } _ :=
    .next (.next (.next (.next (.next (.next .init
      (l := .register none 5) (fun _ => show (0 : Int) < maxTokenNum by decide) rfl)
      (l := .register (some 1) 5) (fun _ => show (1 : Int) < maxTokenNum by decide) rfl)
      (l := .register (some 1) 6) (fun _ => show (2 : Int) < maxTokenNum by decide) rfl)
      (l := .registerDeviceSelectionCallback 1 5 1 eventConnect 9) trivial rfl)
      (l := .registerDeviceSelectionCallback 1 5 2 eventConnect 7) trivial rfl)
      (l := .registerDeviceSelectionCallback 1 6 3 eventDisconnect 8) trivial rfl
  obtain ⟨-, hremoves⟩ := (token_registry hr).2.2.2.2 true 7 2 rfl
  refine ⟨_, ?_, ?_, _, rfl, hremoves, ?_, ?_, ?_, ?_⟩
  · rfl
  · rfl
  · rfl
  · rw [hremoves.callbacks, ExtTreeMap.getElem?_erase_self]
  · rw [hremoves.callbacks, ExtTreeMap.getElem?_erase_of_ne (by decide)]
    exact ⟨_, rfl, rfl⟩
  · rw [hremoves.callbacks, ExtTreeMap.getElem?_erase_of_ne (by decide)]
    exact ⟨_, rfl, rfl⟩

end DistributedSched
