import DistributedSched.Ability.Registry
import DistributedSched.Library.Rounds

/-!
# Ability — the tokens that Register gives out

`token_` starts again at 1 after `MAX_TOKEN_NUM`, and `Register` does not look the new token up in
`tokenMap_`.  Runs of any calls, in which the counter may wrap any number of times, with the
tokens that were given out so far.

* `Tokens`: the tokens given out are values of the counter, and a registered token is one of them.
* `register_live_token_iff`: `Register` gives out a live token exactly when the token that it gave
  out `MAX_TOKEN_NUM` calls before is still registered.
-/

namespace DistributedSched

open Std (ExtTreeMap)
open Runs (Reachable)
open DistributedAbilityManagerService

/-- The tokens that a call gives out. -/
def AbilityOp.issued (h : AbilityHost) : AbilityOp → List Int
  | register continuationMode accessToken =>
    (h.service.register continuationMode accessToken).1.2.toList
  | _ => []

structure Tokens where
  host : AbilityHost
  /-- the newest first -/
  issued : List Int := []

namespace Tokens

def step (r : Tokens) (op : AbilityOp) : Option Tokens :=
  (op.apply r.host).map fun host => ⟨host, op.issued r.host ++ r.issued⟩

/-- `OnStart` has read the token that was saved. -/
def init (token : Int) : Tokens := ⟨{ service := { token := token } }, []⟩

end Tokens

namespace DistributedAbilityManagerService

variable {s : DistributedAbilityManagerService}

theorem nextToken_eq (s : DistributedAbilityManagerService) :
    s.nextToken = Rounds.next maxTokenNum s.token := rfl

/-- No token appears in the loop that erases one, whatever the vectors hold. -/
theorem hasToken_of_eraseToken (hne : s.NoEmpty) {token token' : Int}
    (h : (s.eraseToken token).HasToken token') : s.HasToken token' := by
  obtain ⟨a, tokens, hv, hm⟩ := h
  obtain ⟨-, old, hold, hsub⟩ := of_eraseToken_getElem? hne hv
  exact ⟨a, old, hold, hsub token' hm⟩

@[simp] theorem eraseCallback_token (s : DistributedAbilityManagerService) (token : Int) :
    (s.eraseCallback token).1.token = s.token := by
  unfold eraseCallback
  split <;> rfl

@[simp] theorem setNotifier_tokenMap (s : DistributedAbilityManagerService) (token : Int)
    (cbType : String) (notifier : RemoteObject) (errNullObject : Int) :
    (s.setNotifier token cbType notifier errNullObject).service.tokenMap = s.tokenMap := by
  unfold setNotifier
  split <;> rfl

@[simp] theorem setNotifier_token (s : DistributedAbilityManagerService) (token : Int)
    (cbType : String) (notifier : RemoteObject) (errNullObject : Int) :
    (s.setNotifier token cbType notifier errNullObject).service.token = s.token := by
  unfold setNotifier
  split <;> rfl

theorem deleteNotifier_tokens {token : Int} {cbType : String}
    {r : DistributedAbilityManagerService × List AbilityEffect}
    (h : s.deleteNotifier token cbType = some r) :
    r.1.tokenMap = s.tokenMap ∧ r.1.token = s.token := by
  unfold deleteNotifier at h
  split at h
  · cases h
    exact ⟨rfl, rfl⟩
  · cases h
  · cases h
    exact ⟨rfl, rfl⟩

end DistributedAbilityManagerService

/-! ### What is registered was given out -/

namespace Tokens

structure Inv (r : Tokens) : Prop where
  noEmpty : r.host.service.NoEmpty
  given : Rounds.Given maxTokenNum r.host.service.token r.issued
  live : ∀ token, r.host.service.HasToken token → token ∈ r.issued

theorem init_inv {token : Int} (h₀ : 0 ≤ token) (h₁ : token ≤ maxTokenNum) : (init token).Inv where
  noEmpty a v hv := by simp [init] at hv
  given := .nil h₀ h₁
  live t ht := by
    obtain ⟨a, v, hv, -⟩ := ht
    simp [init] at hv

variable {r : Tokens}

/-- A call that gives out no token, and after which no other token is registered. -/
theorem Inv.keep (h : r.Inv) {service : DistributedAbilityManagerService}
    (recipients : Map RemoteObject Nat) (hne : service.NoEmpty)
    (hc : service.token = r.host.service.token)
    (ht : ∀ token, service.HasToken token → r.host.service.HasToken token) :
    Inv ⟨⟨service, recipients⟩, r.issued⟩ where
  noEmpty := hne
  given := hc ▸ h.given
  live token htoken := h.live token (ht token htoken)

theorem Inv.removed (h : r.Inv) (token : Int) (recipients : Map RemoteObject Nat) :
    Inv ⟨⟨r.host.service.removed token, recipients⟩, r.issued⟩ := by
  have hne : (r.host.service.eraseCallback token).1.NoEmpty := by
    intro a v hv
    rw [eraseCallback_tokenMap] at hv
    exact h.noEmpty a v hv
  refine h.keep recipients (hne.eraseToken token) (eraseCallback_token ..) fun t ht => ?_
  obtain ⟨a, v, hv, hm⟩ := hasToken_of_eraseToken hne ht
  rw [eraseCallback_tokenMap] at hv
  exact ⟨a, v, hv, hm⟩

/-- A call that leaves `tokenMap_`. -/
theorem Inv.sameMap (h : r.Inv) {service : DistributedAbilityManagerService}
    (recipients : Map RemoteObject Nat) (hm : service.tokenMap = r.host.service.tokenMap)
    (hc : service.token = r.host.service.token) :
    Inv ⟨⟨service, recipients⟩, r.issued⟩ := by
  refine h.keep recipients (fun a v hv => ?_) hc fun token ht => ?_
  · rw [hm] at hv
    exact h.noEmpty a v hv
  · obtain ⟨a, v, hv, hmem⟩ := ht
    exact ⟨a, v, hm ▸ hv, hmem⟩

theorem Inv.register (h : r.Inv) (accessToken : Nat) :
    Inv ⟨⟨r.host.service.storeToken.emplaceToken accessToken r.host.service.nextToken,
      r.host.recipients⟩, r.host.service.nextToken :: r.issued⟩ where
  noEmpty := NoEmpty.emplaceToken (s := r.host.service.storeToken) h.noEmpty _ _
  given := h.given.cons (by decide)
  live token ht := by
    obtain ht | rfl := hasToken_emplaceToken.mp ht
    · exact List.mem_cons_of_mem _ (h.live token ht)
    · exact List.mem_cons_self

/-- **Every call keeps it**, also one that gives out a token that is registered. -/
theorem Inv.step (h : r.Inv) {op : AbilityOp} {r' : Tokens} (hs : r.step op = some r') :
    r'.Inv := by
  obtain ⟨host, hop, rfl⟩ := Option.map_eq_some_iff.mp hs
  cases op with
  | register continuationMode accessToken =>
      cases hop
      simp only [AbilityOp.issued]
      unfold DistributedAbilityManagerService.register
      split
      · exact h
      split
      · exact h
      · exact h.register accessToken
  | unregister postTask accessToken token =>
      cases AbilityHost.step_of_apply hop with
      | refused => exact h
      | unregister => exact h.removed token _
  | notifierDied postTask notifier =>
      cases AbilityHost.step_of_apply hop with
      | refused => exact h
      | notifierDied _ _ token => exact h.removed token _
  | registerDeviceSelectionCallback errNullObject accessToken token cbType notifier =>
      cases AbilityHost.step_of_apply hop with
      | refused => exact h
      | set => exact h.sameMap _ (setNotifier_tokenMap ..) (setNotifier_token ..)
  | unregisterDeviceSelectionCallback accessToken token cbType =>
      cases AbilityHost.step_of_apply hop with
      | refused => exact h
      | delete _ _ _ left _ _ _ hleft =>
          obtain ⟨hm, hc⟩ := deleteNotifier_tokens hleft
          exact h.sameMap _ hm hc

theorem inv_of_reach {token : Int} (h₀ : 0 ≤ token) (h₁ : token ≤ maxTokenNum)
    (hr : Reachable step (init token) r) : r.Inv :=
  hr.invariant (init_inv h₀ h₁) fun _ _ _ ih _ hs => ih.step hs

end Tokens

theorem register_eq_ok {s : DistributedAbilityManagerService} {continuationMode : Option Int}
    {accessToken : Nat} {token : Int}
    (h : (s.register continuationMode accessToken).1 = (errOk, some token)) :
    token = s.nextToken := by
  unfold register at h
  split at h
  · cases h
  split at h
  · cases h
  · cases h
    rfl

/-- **`Register` gives out a token of the range; it is a live one exactly when the token given out
`MAX_TOKEN_NUM` calls before is registered still.** -/
theorem register_live_token_iff {token₀ : Int} (h₀ : 0 ≤ token₀) (h₁ : token₀ ≤ maxTokenNum)
    {r : Tokens} (hr : Reachable Tokens.step (.init token₀) r) {continuationMode : Option Int}
    {accessToken : Nat} {token : Int}
    (hok : (r.host.service.register continuationMode accessToken).1 = (errOk, some token)) :
    1 ≤ token ∧ token ≤ maxTokenNum ∧
      (¬ r.host.service.HasToken token ↔
        ∀ old, r.issued[maxTokenNum.toNat - 1]? = some old → ¬ r.host.service.HasToken old) := by
  have hinv := Tokens.inv_of_reach h₀ h₁ hr
  obtain rfl := register_eq_ok hok
  have hmax : 1 ≤ maxTokenNum := by decide
  obtain ⟨hlo, hhi⟩ := Rounds.next_mem hmax hinv.given.counter.1
  refine ⟨hlo, hhi, ?_⟩
  rw [nextToken_eq, hinv.given.live_next_iff hmax hinv.live]
  push Not
  rfl

/-- The first token after the counter has started again. -/
theorem register_live_token_iff_wrapped :
    ∃ r : Tokens, r.issued = [1] ∧ (1 : Int) ≤ 2 ∧ 2 ≤ maxTokenNum ∧
      (¬ r.host.service.HasToken 2 ↔
        ∀ old, r.issued[maxTokenNum.toNat - 1]? = some old → ¬ r.host.service.HasToken old) := by
  obtain ⟨r, hr, hissued, hok⟩ : ∃ r : Tokens, Reachable Tokens.step (.init maxTokenNum) r ∧
      r.issued = [1] ∧ (r.host.service.register (some 0) 6).1 = (errOk, some 2) :=
    ⟨_, .next .init (l := .register none 5) trivial rfl, rfl, rfl⟩
  exact ⟨r, hissued, register_live_token_iff (by decide) (by decide) hr hok⟩

/-! ### A token that is given out twice -/

namespace Tokens

/-- One application keeps token 1; the counter is at `token`. -/
def keeping (token : Int) : AbilityHost :=
  { service := { token := token, tokenMap := (∅ : Map Nat (List Int)).insert 5 [1] } }

/-- Another application has the token that the counter is at. -/
def sharing (token : Int) : AbilityHost :=
  { service := (keeping token).service.emplaceToken 6 token }

theorem sharing_getElem? (token : Int) (a : Nat) :
    (sharing token).service.tokenMap[a]? =
      if 6 = a then some [token] else if 5 = a then some [1] else none := by
  have hnone : (keeping token).service.tokenMap[6]? = none := rfl
  rw [sharing, emplaceToken_getElem?, hnone]
  simp [keeping, ExtTreeMap.getElem?_insert, Std.LawfulEqCmp.compare_eq_iff_eq]

theorem sharing_noEmpty (token : Int) : (sharing token).service.NoEmpty := by
  intro a v hv
  rw [sharing_getElem?] at hv
  split at hv
  · cases hv
    simp
  split at hv
  · cases hv
    simp
  · cases hv

theorem sharing_inOneVector {token : Int} (h : 1 < token) :
    (sharing token).service.InOneVector token := by
  have hsix : ∀ (a : Nat) (v : List Int), (sharing token).service.tokenMap[a]? = some v →
      token ∈ v → 6 = a := by
    intro a v hv hm
    rw [sharing_getElem?] at hv
    split at hv
    · assumption
    split at hv
    · cases hv
      have := List.mem_singleton.mp hm
      omega
    · cases hv
  intro a b v w hv hw hm hm'
  exact (hsix a v hv hm).symm.trans (hsix b w hw hm')

theorem eraseToken_sharing {token : Int} (h : 1 < token) :
    (sharing token).service.eraseToken token = (keeping token).service := by
  have hmap : ((sharing token).service.eraseToken token).tokenMap =
      (keeping token).service.tokenMap := by
    refine ExtTreeMap.ext_getElem? fun a => ?_
    rw [eraseToken_getElem? (sharing_noEmpty token) (sharing_inOneVector h), sharing_getElem?]
    by_cases h6 : 6 = a
    · subst h6
      simp [withoutToken, keeping]
    rw [if_neg h6]
    by_cases h5 : 5 = a
    · subst h5
      have hone : token ∉ [1] := by
        intro hm
        have := List.mem_singleton.mp hm
        omega
      rw [if_pos rfl, Option.bind_some, withoutToken_of_not_mem hone (List.cons_ne_nil 1 [])]
      rfl
    · rw [if_neg h5]
      simp [keeping, Std.LawfulEqCmp.compare_eq_iff_eq, h5]
  rw [eraseToken] at hmap ⊢
  simp only at hmap
  rw [hmap]
  rfl

theorem step_register {token : Int} (h₁ : token < maxTokenNum) (issued : List Int) :
    step ⟨keeping token, issued⟩ (.register none 6) =
      some ⟨sharing (token + 1), (token + 1) :: issued⟩ := by
  have hnext : (keeping token).service.nextToken = token + 1 := AbilityHost.nextToken_of_lt h₁
  have hreg : (keeping token).service.register none 6 =
      ((errOk, some (token + 1)), (sharing (token + 1)).service) := by
    have hexceed : (keeping token).service.isExceededRegisterMaxNum 6 = false := rfl
    rw [DistributedAbilityManagerService.register, hexceed]
    simp only [Option.any_none, Bool.false_eq_true, if_false, storeToken, hnext]
    rfl
  simp only [step, AbilityOp.apply, AbilityOp.issued, hreg]
  rfl

theorem step_unregister {token : Int} (h : 1 < token) (issued : List Int) :
    step ⟨sharing token, issued⟩ (.unregister false 6 token) = some ⟨keeping token, issued⟩ := by
  have hown : (sharing token).service.isTokenRegistered 6 token = true :=
    isTokenRegistered_iff.mpr ⟨_, sharing_getElem? token 6, List.mem_singleton_self token⟩
  have hunreg : (sharing token).service.unregister false 6 token =
      ⟨errOk, (keeping token).service, []⟩ := by
    rw [DistributedAbilityManagerService.unregister, hown, ← eraseToken_sharing h]
    rfl
  simp only [step, AbilityOp.apply, AbilityOp.issued, hunreg]
  rfl

/-- The counter can come to any token while token 1 is kept: the other application registers, and
unregisters the token that it gets. -/
theorem exists_reach_keeping (n : Nat) (hn : (n : Int) < maxTokenNum) :
    ∃ issued, Reachable step (init 0) ⟨keeping (n + 1), issued⟩ := by
  induction n with
  | zero => exact ⟨_, .next .init (l := .register none 5) trivial rfl⟩
  | succ n ih =>
      push_cast at hn
      obtain ⟨issued, hr⟩ := ih (by omega)
      have hregister := hr.next trivial (step_register hn issued)
      have hunregister := hregister.next trivial (step_unregister (by omega) _)
      exact ⟨_, by push_cast; exact hunregister⟩

end Tokens

/-- After a round of all the tokens, the one that is kept is given out again. -/
theorem register_live_token :
    ∃ r : Tokens, Reachable Tokens.step (.init 0) r ∧
      (r.host.service.register none 6).1 = (errOk, some 1) ∧ r.host.service.HasToken 1 := by
  obtain ⟨issued, hr⟩ := Tokens.exists_reach_keeping 99999999 (by decide)
  exact ⟨_, hr, rfl, 5, [1], rfl, List.mem_singleton_self 1⟩

end DistributedSched
