import DistributedSched.Service.Permission

/-!
# Access — the rules of the permission check

What `checkDPermission` asks of a remote request, rule by rule and without an order.

* `TargetFound`: how the target of the request is found, with the extension as the fallback.
* `MayReach`: what the caller must hold for a target.  One group of the caller is enough; every
  permission of the target is needed.
* `checks_grant_rules`: the check succeeds on exactly the requests that the rules grant, and the
  check of a start by call on exactly those of them whose caller is the bundle of the want.
-/

namespace DistributedSched

open DistributedSchedPermission

/-! ### The rules -/

/-- The ability that the request is for. -/
inductive TargetFound (env : Env) (want : Want) (needQueryExtension : Bool) :
    AbilityInfo → Prop where
  | ability {target : AbilityInfo} (found : env.queryAbilityInfo want = some target)
      (forResult : want.getIntParam dmsMissionId defaultDmsMissionId ≠ defaultDmsMissionId →
        target.type ≠ .service ∧ target.type ≠ .extension) :
      TargetFound env want needQueryExtension target
  | extension {extension : ExtensionAbilityInfo} (failed : env.queryAbilityInfo want = none)
      (needed : needQueryExtension = true)
      (found : env.queryExtensionAbilityInfo want = some extension) :
      TargetFound env want needQueryExtension (initAbilityInfoFromExtension extension)

/-- The caller's groups, its identity and its permissions are enough for the target. -/
structure MayReach (env : Env) (want : Want) (callerInfo : CallerInfo) (accountInfo : AccountInfo)
    (target : AbilityInfo) : Prop where
  account : accountInfo.accountType = sameAccountType ∨ target.bundleName ≠ "" ∧
    ∃ groupId ∈ accountInfo.groupIdList, env.checkAccessToGroup groupId target.bundleName = true
  visible : target.visible = true
  /-- the bundle manager answers the empty text for a bundle without an appId -/
  continuation : want.hasFlag Want.flagAbilityContinuation = true →
    target.bundleName ≠ "" ∧ callerInfo.callerAppId ≠ "" ∧
    env.getAppIdFromBms target.bundleName = some callerInfo.callerAppId
  permissions : target.permissions = [] ∨ callerInfo.accessToken ≠ 0 ∧
    env.allocLocalTokenID callerInfo.sourceDeviceId callerInfo.accessToken ≠ 0 ∧
    ∀ permission ∈ target.permissions, permission ≠ "" →
      env.permissionDenied (env.allocLocalTokenID callerInfo.sourceDeviceId callerInfo.accessToken)
        permission = false

/-! ### One check after the other -/

section Checks

variable {env : Env} {want : Want} {callerInfo : CallerInfo} {accountInfo : AccountInfo}
  {target : AbilityInfo}

theorem getTargetAbility_eq_some {needQueryExtension : Bool} :
    getTargetAbility env want needQueryExtension = some target ↔
      TargetFound env want needQueryExtension target := by
  constructor
  · intro h
    cases hq : env.queryAbilityInfo want with
    | some found =>
        simp only [getTargetAbility, hq, Option.ite_none_left_eq_some, Option.some.injEq] at h
        obtain ⟨hs, rfl⟩ := h
        exact .ability hq fun hm => ⟨fun h => hs ⟨hm, .inl h⟩, fun h => hs ⟨hm, .inr h⟩⟩
    | none =>
        simp only [getTargetAbility, hq, Option.ite_none_right_eq_some, Option.map_eq_some_iff] at h
        obtain ⟨needed, extension, found, rfl⟩ := h
        exact .extension hq needed found
  · intro h
    cases h with
    | ability found forResult =>
        simp only [getTargetAbility, found]
        rw [if_neg]
        intro hs
        exact hs.2.elim (forResult hs.1).1 (forResult hs.1).2
    | extension failed needed found =>
        simp only [getTargetAbility, failed, needed, if_true, found, Option.map_some]

/-- One group of the list is enough. -/
theorem checkAccountAccessPermission_iff {targetBundleName : String} :
    checkAccountAccessPermission env accountInfo targetBundleName = true ↔
      accountInfo.accountType = sameAccountType ∨
        targetBundleName ≠ "" ∧ ∃ groupId ∈ accountInfo.groupIdList,
          env.checkAccessToGroup groupId targetBundleName = true := by
  unfold checkAccountAccessPermission
  by_cases ht : accountInfo.accountType = sameAccountType
  · rw [if_pos ht]
    exact iff_of_true rfl (.inl ht)
  · rw [if_neg ht, or_iff_right ht]
    cases accountInfo.groupIdList with
    | nil => simp
    | cons groupId rest => by_cases hn : targetBundleName = "" <;> simp [hn]

theorem isSameAppId_iff {callerAppId targetBundleName : String} :
    env.isSameAppId callerAppId targetBundleName = true ↔
      targetBundleName ≠ "" ∧ callerAppId ≠ "" ∧
        env.getAppIdFromBms targetBundleName = some callerAppId := by
  unfold Env.isSameAppId
  by_cases hn : targetBundleName = "" <;> by_cases hc : callerAppId = "" <;> simp [hn, hc]

theorem checkComponentAccessPermission_iff :
    checkComponentAccessPermission env target callerInfo want = true ↔
      target.visible = true ∧ (want.hasFlag Want.flagAbilityContinuation = true →
        env.isSameAppId callerInfo.callerAppId target.bundleName = true) := by
  unfold checkComponentAccessPermission
  cases target.visible <;> cases want.hasFlag Want.flagAbilityContinuation <;> simp

/-- Every permission of the list is needed, but for the empty ones. -/
theorem checkCustomPermission_iff :
    checkCustomPermission env target callerInfo = true ↔
      target.permissions = [] ∨ callerInfo.accessToken ≠ 0 ∧
        env.allocLocalTokenID callerInfo.sourceDeviceId callerInfo.accessToken ≠ 0 ∧
        ∀ permission ∈ target.permissions, permission ≠ "" → env.permissionDenied
          (env.allocLocalTokenID callerInfo.sourceDeviceId callerInfo.accessToken)
            permission = false := by
  unfold checkCustomPermission
  by_cases hp : target.permissions = []
  · simp [hp]
  · have listed : target.permissions.isEmpty = false := by
      simpa only [List.isEmpty_eq_false_iff] using hp
    by_cases ht : callerInfo.accessToken = 0
    · simp [listed, hp, ht]
    · by_cases hl : env.allocLocalTokenID callerInfo.sourceDeviceId callerInfo.accessToken = 0
      · simp [listed, hp, ht, hl]
      · simp [listed, hp, ht, hl, Decidable.or_iff_not_imp_left]

theorem checkGetCallerPermission_eq_ok {localDeviceId : String} :
    checkGetCallerPermission env want callerInfo accountInfo localDeviceId = errOk ↔
      checkDPermission env want callerInfo accountInfo localDeviceId = errOk ∧
        env.getAppIdFromBms want.element.bundleName = some callerInfo.callerAppId := by
  unfold checkGetCallerPermission
  by_cases hr : checkDPermission env want callerInfo accountInfo localDeviceId = errOk
  · simp only [hr, ne_eq, not_true_eq_false, if_false, true_and]
    cases env.getAppIdFromBms want.element.bundleName with
    | none =>
        simp only [reduceCtorEq, iff_false]
        decide
    | some appId =>
        by_cases ha : appId = callerInfo.callerAppId
        · simp [ha]
        · simp only [ha, not_false_eq_true, if_true, Option.some.injEq, iff_false]
          decide
  · simp [hr]

end Checks

/-! ### The check is the rules -/

/-- The check of a remote request grants exactly what the rules say, and the check of a start by
call what the common check grants to the bundle of the want. -/
theorem checks_grant_rules (env : Env) (want : Want) (callerInfo : CallerInfo)
    (accountInfo : AccountInfo) (localDeviceId : String) (needQueryExtension : Bool) :
    (checkDPermission env want callerInfo accountInfo localDeviceId needQueryExtension = errOk ↔
      localDeviceId ≠ "" ∧ ∃ target, TargetFound env want needQueryExtension target ∧
        MayReach env want callerInfo accountInfo target) ∧
    (checkGetCallerPermission env want callerInfo accountInfo localDeviceId = errOk ↔
      (localDeviceId ≠ "" ∧ ∃ target, TargetFound env want false target ∧
        MayReach env want callerInfo accountInfo target) ∧
      env.getAppIdFromBms want.element.bundleName = some callerInfo.callerAppId) := by
  have rules : ∀ needQueryExtension,
      checkDPermission env want callerInfo accountInfo localDeviceId needQueryExtension = errOk ↔
        localDeviceId ≠ "" ∧ ∃ target, TargetFound env want needQueryExtension target ∧
          MayReach env want callerInfo accountInfo target := by
    intro needQueryExtension
    simp only [checkDPermission_eq_ok, getTargetAbility_eq_some, checkAccountAccessPermission_iff,
      checkComponentAccessPermission_iff, isSameAppId_iff, checkCustomPermission_iff]
    refine and_congr_right fun _ => exists_congr fun target => and_congr_right fun _ => ?_
    constructor
    · rintro ⟨account, ⟨visible, continuation⟩, permissions⟩
      exact ⟨account, visible, continuation, permissions⟩
    · rintro ⟨account, visible, continuation, permissions⟩
      exact ⟨account, ⟨visible, continuation⟩, permissions⟩
  refine ⟨rules needQueryExtension, ?_⟩
  rw [checkGetCallerPermission_eq_ok, rules false]

end DistributedSched
