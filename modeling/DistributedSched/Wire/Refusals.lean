import DistributedSched.Wire.Messages

/-!
# Wire — hostile and broken messages

Which parcels a stub function survives.  A read that fails ends it with an error code; what kills
it is extra info that is a JSON document of the wrong shape, and the second want of a free
install that is missing.

* `NlohmannJson.TokenReadable`, `FreeInstallReadable`: the texts that the code can take apart.
* `Acceptable`: the parcels that reach the extra info only with such a text.
* `remote_messages_refused`: a stub function ends with an error code or calls the service exactly
  when the calling uid is refused or the parcel is acceptable.
* `documents_crash`: messages that a remote device can send.
-/

namespace DistributedSched

open Reading DistributedSchedStub StubM

namespace NlohmannJson

variable (lib : NlohmannJson)

/-- A document is an object whose access token converts to a number. -/
def TokenReadable (extraInfo : String) : Prop :=
  ∀ j, lib.parse extraInfo = some j →
    ∃ fields value, j = .object fields ∧ fields.lookup extroInfoJsonKeyAccessToken = some value ∧
      value.IsArithmetic

/-- And its request code, if it has one. -/
def FreeInstallReadable (extraInfo : String) : Prop :=
  ∀ j, lib.parse extraInfo = some j →
    ∃ fields value, j = .object fields ∧ fields.lookup extroInfoJsonKeyAccessToken = some value ∧
      value.IsArithmetic ∧
      ∀ code, fields.lookup extroInfoJsonKeyRequestCode = some code → code.IsArithmetic

end NlohmannJson

/-- The parcels that a stub function survives. -/
def Acceptable (lib : NlohmannJson) : SchedCode → List ParcelItem → Prop
  | .startAbilityFromRemote, data =>
    ∀ want abilityInfo requestCode uid sourceDeviceId accountType groupIdList callerAppId
      extraInfo rest,
      data = .want want :: .compatibleAbilityInfo abilityInfo :: .int32 requestCode ::
        .int32 uid :: .string sourceDeviceId :: accountType :: .stringVector groupIdList ::
        callerAppId :: .string extraInfo :: rest → lib.TokenReadable extraInfo
  | .sendResultFromRemote, _ => True
  | .connectAbilityFromRemote, data =>
    ∀ want abilityInfo connect uid pid sourceDeviceId accountType groupIdList callerAppId
      extraInfo rest,
      data = .want want :: .compatibleAbilityInfo abilityInfo :: connect :: .int32 uid ::
        .int32 pid :: .string sourceDeviceId :: accountType :: .stringVector groupIdList ::
        callerAppId :: .string extraInfo :: rest → lib.TokenReadable extraInfo
  | .startAbilityByCallFromRemote, data =>
    ∀ connect uid pid sourceDeviceId accountType groupIdList callerAppId extraInfo rest,
      data = connect :: .int32 uid :: .int32 pid :: .string sourceDeviceId :: accountType ::
        .stringVector groupIdList :: callerAppId :: .string extraInfo :: rest →
        lib.TokenReadable extraInfo
  | .startFreeInstallFromRemote, data =>
    ∀ want uid sourceDeviceId accountType groupIdList callerAppId taskId rest,
      data = .want want :: .int32 uid :: .string sourceDeviceId :: accountType ::
        .stringVector groupIdList :: callerAppId :: .int64 taskId :: rest →
        (∃ cmpWant, rest.head? = some (.want cmpWant)) ∧
        ∀ item extraInfo rest', rest = item :: .string extraInfo :: rest' →
          lib.FreeInstallReadable extraInfo

/-! ### Exits of the parts -/

section parts

variable {lib : NlohmannJson} {env : StubEnv} {s : List ParcelItem} {β : Type}

/-- A read that asks for the items `mk a`. -/
theorem avoids_read_shape {α : Type} {f : ParcelItem → Option α} {mk : α → ParcelItem}
    (hf : ∀ {i a}, f i = some a ↔ i = mk a) {code : Int} {k : α → StubM β} :
    Avoids StubExit.Fatal (read f (.returned code) >>= k) s ↔
      ∀ a s', s = mk a :: s' → Avoids StubExit.Fatal (k a) s' := by
  rw [avoids_read_bind id]
  constructor
  · rintro h a s' rfl
    exact h (mk a) a s' rfl (hf.mpr rfl)
  · rintro h i a s' hs hi
    obtain rfl := hf.mp hi
    exact h a s' hs

theorem avoids_readHelper_bind {α : Type} {f : ParcelItem → Option α} {mk : α → ParcelItem}
    (hf : ∀ {i a}, f i = some a ↔ i = mk a) {k : α → StubM β} :
    Avoids StubExit.Fatal (readHelper env f >>= k) s ↔
      ∀ a s', s = mk a :: s' → Avoids StubExit.Fatal (k a) s' :=
  avoids_read_shape hf

theorem avoids_readParcelable_bind {α : Type} {f : ParcelItem → Option α} {mk : α → ParcelItem}
    (hf : ∀ {i a}, f i = some a ↔ i = mk a) {k : α → StubM β} :
    Avoids StubExit.Fatal (readParcelable env f >>= k) s ↔
      ∀ a s', s = mk a :: s' → Avoids StubExit.Fatal (k a) s' :=
  avoids_read_shape hf

theorem avoids_checkCallingUid_bind {k : Unit → StubM β} :
    Avoids StubExit.Fatal (checkCallingUid env >>= k) s ↔
      (env.callingUid < hidHap → Avoids StubExit.Fatal (k ()) s) := by
  unfold checkCallingUid
  split
  · rename_i h
    rw [pure_bind]
    exact ⟨fun ha _ => ha, fun ha => ha h⟩
  · rename_i h
    rw [avoids_bind, avoids_throw]
    constructor
    · exact fun _ hc => absurd hc h
    · exact fun _ => ⟨id, fun a s' hr => by cases hr⟩

theorem readInt32_eq_some {i : ParcelItem} {a : Int} : i.readInt32 = some a ↔ i = .int32 a := by
  cases i <;> simp [ParcelItem.readInt32]

theorem readInt64_eq_some {i : ParcelItem} {a : Int} : i.readInt64 = some a ↔ i = .int64 a := by
  cases i <;> simp [ParcelItem.readInt64]

theorem readString_eq_some {i : ParcelItem} {a : String} :
    i.readString = some a ↔ i = .string a := by
  cases i <;> simp [ParcelItem.readString]

theorem readStringVector_eq_some {i : ParcelItem} {a : List String} :
    i.readStringVector = some a ↔ i = .stringVector a := by
  cases i <;> simp [ParcelItem.readStringVector]

theorem readWant_eq_some {i : ParcelItem} {a : Want} : i.readWant = some a ↔ i = .want a := by
  cases i <;> simp [ParcelItem.readWant]

theorem readCompatibleAbilityInfo_eq_some {i : ParcelItem} {a : CompatibleAbilityInfo} :
    i.readCompatibleAbilityInfo = some a ↔ i = .compatibleAbilityInfo a := by
  cases i <;> simp [ParcelItem.readCompatibleAbilityInfo]

theorem tail_eq_cons {α : Type} {l l' : List α} {a : α} :
    l.tail = a :: l' ↔ ∃ b, l = b :: a :: l' := by
  cases l <;> simp

/-- The account: its type may be anything. -/
theorem avoids_readAccountInfo_bind {k : AccountInfo → StubM β} :
    Avoids StubExit.Fatal (readAccountInfo env >>= k) s ↔
      ∀ item groupIdList s', s = item :: .stringVector groupIdList :: s' →
        Avoids StubExit.Fatal (k ⟨(item.readInt32).getD 0, groupIdList⟩) s' := by
  simp only [readAccountInfo, bind_assoc, pure_bind, avoids_readD_bind,
    avoids_readHelper_bind readStringVector_eq_some]
  constructor
  · rintro h item groupIdList s' rfl
    exact h _ _ rfl
  · rintro h groupIdList s' hs
    obtain ⟨item, rfl⟩ := tail_eq_cons.mp hs
    exact h item groupIdList s' rfl

theorem avoids_readRemoteObject_bind {k : Option RemoteObject → StubM β} :
    Avoids StubExit.Fatal (readRemoteObject >>= k) s ↔
      Avoids StubExit.Fatal (k (s.head?.bind ParcelItem.readRemoteObject)) s.tail := by
  unfold readRemoteObject
  rw [avoids_readD_bind]
  cases s with
  | nil => rfl
  | cons i s => cases i <;> rfl

theorem avoids_readWant_bind {k : Option Want → StubM β} :
    Avoids StubExit.Fatal (readWant >>= k) s ↔
      Avoids StubExit.Fatal (k (s.head?.bind ParcelItem.readWant)) s.tail := by
  unfold readWant
  rw [avoids_readD_bind]
  cases s with
  | nil => rfl
  | cons i s => cases i <;> rfl

theorem avoids_toUint32 {j : Json} : Avoids StubExit.Fatal j.toUint32 s ↔ j.IsArithmetic := by
  cases j with
  | boolean value => exact iff_of_true (avoids_pure _) trivial
  | numberInteger value => exact iff_of_true (avoids_pure _) trivial
  | numberFloat value => exact iff_of_true (avoids_pure _) trivial
  | _ => exact iff_of_false (fun h => (avoids_throw _).mp h trivial) id

theorem avoids_subscript {j : Json} {key : String} {k : Json → StubM β}
    (hnull : ∀ s, ¬ Avoids StubExit.Fatal (k .null) s) :
    Avoids StubExit.Fatal (j.subscript key >>= k) s ↔
      ∃ fields value, j = .object fields ∧ fields.lookup key = some value ∧
        Avoids StubExit.Fatal (k value) s := by
  cases j with
  | object fields =>
      simp only [Json.subscript, pure_bind, Json.object.injEq, exists_and_left, exists_eq_left']
      cases hl : fields.lookup key with
      | none => simp [hnull s]
      | some value => simp
  | null => simpa [Json.subscript] using hnull s
  | _ =>
      simp only [Json.subscript, reduceCtorEq, false_and, exists_false, iff_false]
      rw [avoids_bind, avoids_throw]
      exact fun h => h.1 trivial

theorem avoids_parseAccessToken {extraInfo : String} :
    Avoids StubExit.Fatal (parseAccessToken lib extraInfo) s ↔ lib.TokenReadable extraInfo := by
  unfold parseAccessToken NlohmannJson.TokenReadable
  cases lib.parse extraInfo with
  | none => simp [avoids_pure]
  | some j =>
      rw [avoids_subscript fun s h => avoids_toUint32.mp h]
      simp [avoids_toUint32]

theorem toUint32_of_isArithmetic {j : Json} (h : j.IsArithmetic) (s : List ParcelItem) :
    ∃ value, j.toUint32 s = .ok (value, s) := by
  cases j with
  | boolean value => exact ⟨_, rfl⟩
  | numberInteger value => exact ⟨_, rfl⟩
  | numberFloat value => exact ⟨_, rfl⟩
  | _ => exact h.elim

theorem avoids_toUint32_bind {j : Json} {k : Nat → StubM β} {P : Prop}
    (hk : ∀ a, Avoids StubExit.Fatal (k a) s ↔ P) :
    Avoids StubExit.Fatal (j.toUint32 >>= k) s ↔ j.IsArithmetic ∧ P := by
  rw [avoids_bind, avoids_toUint32]
  refine and_congr_right fun hj => ?_
  obtain ⟨value, hv⟩ := toUint32_of_isArithmetic hj s
  rw [hv]
  constructor
  · intro h
    exact (hk value).mp (h value s rfl)
  · rintro hP a s' hr
    cases hr
    exact (hk value).mpr hP

theorem avoids_parseRequestCode {fields : List (String × Json)} {accessToken : Nat} :
    Avoids StubExit.Fatal
      (if (Json.object fields).contains extroInfoJsonKeyRequestCode then do
        let requestCode ← (Json.object fields).subscript extroInfoJsonKeyRequestCode
        let requestCode ← requestCode.toInt32
        return (accessToken, requestCode)
      else return (accessToken, defaultRequestCode) : StubM (Nat × Int)) s ↔
      ∀ code, fields.lookup extroInfoJsonKeyRequestCode = some code → code.IsArithmetic := by
  cases hl : fields.lookup extroInfoJsonKeyRequestCode with
  | none => simp [Json.contains, hl, avoids_pure]
  | some code =>
      simp only [Json.contains, hl, Option.isSome_some, if_true, Json.subscript, Option.getD_some,
        pure_bind, Option.some.injEq, forall_eq', Json.toInt32, bind_assoc]
      rw [avoids_toUint32_bind (P := True) fun a => iff_of_true (avoids_pure _) trivial, and_true]

theorem avoids_parseFreeInstall {extraInfo : String} :
    Avoids StubExit.Fatal (parseFreeInstall lib extraInfo) s ↔
      lib.FreeInstallReadable extraInfo := by
  unfold parseFreeInstall NlohmannJson.FreeInstallReadable
  cases lib.parse extraInfo with
  | none => simp [avoids_pure]
  | some j =>
      rw [avoids_subscript]
      · simp only [Option.some.injEq, forall_eq']
        refine exists_congr fun fields => exists_congr fun value => and_congr_right ?_
        rintro rfl
        refine and_congr_right fun _ => ?_
        exact avoids_toUint32_bind fun _ => avoids_parseRequestCode
      · intro s h
        exact avoids_toUint32.mp (avoids_bind.mp h).1

theorem avoids_deref {α : Type} {o : Option α} {k : α → StubM β} :
    Avoids StubExit.Fatal (deref o >>= k) s ↔ ∃ a, o = some a ∧ Avoids StubExit.Fatal (k a) s := by
  cases o with
  | none =>
      rw [deref, avoids_bind, avoids_throw]
      simp [StubExit.Fatal]
  | some a => simp [deref]

end parts

/-! ### The stub functions -/

section handlers

variable {lib : NlohmannJson} {env : StubEnv} {s : List ParcelItem}

/-- A text that cannot be read is empty. -/
theorem getD_readString {P : String → Prop} (hP : P "") :
    P ((s.head?.bind ParcelItem.readString).getD "") ↔
      ∀ text rest, s = .string text :: rest → P text := by
  constructor
  · rintro h text rest rfl
    exact h
  · intro h
    cases hs : s.head?.bind ParcelItem.readString with
    | none => exact hP
    | some text =>
        obtain ⟨i, hi, hr⟩ := Option.bind_eq_some_iff.mp hs
        obtain rfl := readString_eq_some.mp hr
        obtain ⟨rest, rfl⟩ := List.head?_eq_some_iff.mp hi
        exact h text rest rfl

/-- The empty text is no document. -/
theorem tokenReadable_empty (hempty : lib.parse "" = none) : lib.TokenReadable "" := by
  intro j hj
  rw [hempty] at hj
  cases hj

theorem freeInstallReadable_empty (hempty : lib.parse "" = none) :
    lib.FreeInstallReadable "" := by
  intro j hj
  rw [hempty] at hj
  cases hj

/-- The end of three of the messages. -/
theorem avoids_tokenTail (hempty : lib.parse "" = none) {β : Type} {k : String → Nat → StubM β}
    (hk : ∀ a b s, Avoids StubExit.Fatal (k a b) s) :
    Avoids StubExit.Fatal (readD ParcelItem.readString "" >>= fun callerAppId =>
        readD ParcelItem.readString "" >>= fun extraInfo =>
        parseAccessToken lib extraInfo >>= fun accessToken => k callerAppId accessToken) s ↔
      ∀ callerAppId extraInfo rest, s = callerAppId :: .string extraInfo :: rest →
        lib.TokenReadable extraInfo := by
  rw [avoids_readD_bind, avoids_readD_bind, avoids_bind, avoids_parseAccessToken,
    and_iff_left fun a s' _ => hk _ a s', getD_readString (tokenReadable_empty hempty)]
  constructor
  · rintro h callerAppId extraInfo rest rfl
    exact h extraInfo rest rfl
  · intro h extraInfo rest hs
    obtain ⟨callerAppId, rfl⟩ := tail_eq_cons.mp hs
    exact h callerAppId extraInfo rest rfl

theorem startAbilityFromRemoteInner_avoids (hempty : lib.parse "" = none) :
    Avoids StubExit.Fatal (startAbilityFromRemoteInner lib env) s ↔
      (env.callingUid < hidHap → Acceptable lib .startAbilityFromRemote s) := by
  unfold startAbilityFromRemoteInner
  rw [avoids_checkCallingUid_bind]
  refine imp_congr_right fun _ => ?_
  simp only [avoids_readParcelable_bind readWant_eq_some,
    avoids_readParcelable_bind readCompatibleAbilityInfo_eq_some,
    avoids_readHelper_bind readInt32_eq_some, avoids_readHelper_bind readString_eq_some,
    avoids_readAccountInfo_bind, avoids_tokenTail hempty fun _ _ _ => avoids_pure _, Acceptable]
  constructor
  · rintro h want abilityInfo requestCode uid sourceDeviceId accountType groupIdList callerAppId
      extraInfo rest rfl
    exact h _ _ rfl _ _ rfl _ _ rfl _ _ rfl _ _ rfl _ _ _ rfl _ _ _ rfl
  · rintro h want _ rfl abilityInfo _ rfl requestCode _ rfl uid _ rfl sourceDeviceId _ rfl
      accountType groupIdList _ rfl callerAppId extraInfo rest rfl
    exact h _ _ _ _ _ _ _ _ _ _ rfl

theorem sendResultFromRemoteInner_avoids :
    Avoids StubExit.Fatal (sendResultFromRemoteInner lib env) s := by
  unfold sendResultFromRemoteInner
  simp only [avoids_checkCallingUid_bind, avoids_readParcelable_bind readWant_eq_some,
    avoids_readHelper_bind readInt32_eq_some, avoids_readHelper_bind readString_eq_some,
    avoids_readAccountInfo_bind, avoids_readD_bind, avoids_pure, implies_true]

theorem connectAbilityFromRemoteInner_avoids (hempty : lib.parse "" = none) :
    Avoids StubExit.Fatal (connectAbilityFromRemoteInner lib env) s ↔
      (env.callingUid < hidHap → Acceptable lib .connectAbilityFromRemote s) := by
  unfold connectAbilityFromRemoteInner
  rw [avoids_checkCallingUid_bind]
  refine imp_congr_right fun _ => ?_
  simp only [avoids_readParcelable_bind readWant_eq_some,
    avoids_readParcelable_bind readCompatibleAbilityInfo_eq_some,
    avoids_readHelper_bind readInt32_eq_some, avoids_readHelper_bind readString_eq_some,
    avoids_readAccountInfo_bind, avoids_readRemoteObject_bind,
    avoids_tokenTail hempty fun _ _ _ => avoids_pure _, Acceptable]
  constructor
  · rintro h want abilityInfo connect uid pid sourceDeviceId accountType groupIdList callerAppId
      extraInfo rest rfl
    exact h _ _ rfl _ _ rfl _ _ rfl _ _ rfl _ _ rfl _ _ _ rfl _ _ _ rfl
  · rintro h want _ rfl abilityInfo s₂ rfl uid _ hs pid _ rfl sourceDeviceId _ rfl
      accountType groupIdList _ rfl callerAppId extraInfo rest rfl
    obtain ⟨connect, rfl⟩ := tail_eq_cons.mp hs
    exact h _ _ _ _ _ _ _ _ _ _ _ rfl

/-- The end of a start by call, where an empty extra info is refused. -/
theorem avoids_byCallTail (hempty : lib.parse "" = none) {k : String → Nat → Want → StubM SchedCall}
    (hk : ∀ a b c s, Avoids StubExit.Fatal (k a b c) s) :
    Avoids StubExit.Fatal (readD ParcelItem.readString "" >>= fun callerAppId =>
        readD ParcelItem.readString "" >>= fun extraInfo =>
        if extraInfo = "" then throw (.returned env.errNullObject.1)
        else parseAccessToken lib extraInfo >>= fun accessToken =>
          readParcelable env ParcelItem.readWant >>= fun want => k callerAppId accessToken want) s ↔
      ∀ callerAppId extraInfo rest, s = callerAppId :: .string extraInfo :: rest →
        lib.TokenReadable extraInfo := by
  have hend : ∀ callerAppId extraInfo s, Avoids StubExit.Fatal
      (if extraInfo = "" then throw (.returned env.errNullObject.1)
        else parseAccessToken lib extraInfo >>= fun accessToken =>
          readParcelable env ParcelItem.readWant >>= fun want => k callerAppId accessToken want) s ↔
      lib.TokenReadable extraInfo := by
    intro callerAppId extraInfo s
    split
    · rename_i he
      exact iff_of_true ((avoids_throw _).mpr id) (he ▸ tokenReadable_empty hempty)
    · rw [avoids_bind, avoids_parseAccessToken, and_iff_left]
      intro a s' _
      rw [avoids_readParcelable_bind readWant_eq_some]
      exact fun want s _ => hk _ _ _ s
  rw [avoids_readD_bind, avoids_readD_bind, hend, getD_readString (tokenReadable_empty hempty)]
  constructor
  · rintro h callerAppId extraInfo rest rfl
    exact h extraInfo rest rfl
  · intro h extraInfo rest hs
    obtain ⟨callerAppId, rfl⟩ := tail_eq_cons.mp hs
    exact h callerAppId extraInfo rest rfl

theorem startAbilityByCallFromRemoteInner_avoids (hempty : lib.parse "" = none) :
    Avoids StubExit.Fatal (startAbilityByCallFromRemoteInner lib env) s ↔
      (env.callingUid < hidHap → Acceptable lib .startAbilityByCallFromRemote s) := by
  unfold startAbilityByCallFromRemoteInner
  rw [avoids_checkCallingUid_bind]
  refine imp_congr_right fun _ => ?_
  simp only [avoids_readRemoteObject_bind, avoids_readHelper_bind readInt32_eq_some,
    avoids_readHelper_bind readString_eq_some, avoids_readAccountInfo_bind,
    avoids_byCallTail hempty fun _ _ _ _ => avoids_pure _, Acceptable]
  constructor
  · rintro h connect uid pid sourceDeviceId accountType groupIdList callerAppId extraInfo rest rfl
    exact h _ _ rfl _ _ rfl _ _ rfl _ _ _ rfl _ _ _ rfl
  · rintro h uid _ hs pid _ rfl sourceDeviceId _ rfl accountType groupIdList _ rfl callerAppId
      extraInfo rest rfl
    obtain ⟨connect, rfl⟩ := tail_eq_cons.mp hs
    exact h _ _ _ _ _ _ _ _ _ rfl

theorem parseFreeInstall_ok {extraInfo : String} (h : lib.FreeInstallReadable extraInfo) :
    ∃ r, parseFreeInstall lib extraInfo s = .ok (r, s) := by
  unfold parseFreeInstall
  cases hp : lib.parse extraInfo with
  | none => exact ⟨_, rfl⟩
  | some j =>
      obtain ⟨fields, value, rfl, hl, hn, hcode⟩ := h j hp
      obtain ⟨token, ht⟩ := toUint32_of_isArithmetic hn s
      simp only [Json.subscript, hl, Option.getD_some, pure_bind, run_bind_of_ok ht, Json.contains]
      cases hc : fields.lookup extroInfoJsonKeyRequestCode with
      | none => exact ⟨_, rfl⟩
      | some code =>
          obtain ⟨requestCode, hr⟩ := toUint32_of_isArithmetic (hcode code hc) s
          simp only [Option.isSome_some, if_true, Option.getD_some, Json.toInt32, bind_assoc,
            pure_bind, run_bind_of_ok hr]
          exact ⟨_, rfl⟩

/-- The end of a free install: the extra info, and the second want. -/
theorem avoids_freeInstallTail {extraInfo : String} {cmpWant : Option Want}
    {k : Nat × Int → Want → StubM SchedCall} (hk : ∀ a b s, Avoids StubExit.Fatal (k a b) s) :
    Avoids StubExit.Fatal (parseFreeInstall lib extraInfo >>= fun r =>
        deref cmpWant >>= fun cmpWant => k r cmpWant) s ↔
      (∃ want, cmpWant = some want) ∧ lib.FreeInstallReadable extraInfo := by
  rw [avoids_bind, avoids_parseFreeInstall, and_comm]
  refine and_congr_left fun hr => ?_
  simp only [avoids_deref, hk, and_true]
  obtain ⟨r, h⟩ := parseFreeInstall_ok (s := s) hr
  exact ⟨fun hd => hd r s h, fun hd _ _ _ => hd⟩

theorem startFreeInstallFromRemoteInner_avoids (hempty : lib.parse "" = none) :
    Avoids StubExit.Fatal (startFreeInstallFromRemoteInner lib env) s ↔
      (env.callingUid < hidHap → Acceptable lib .startFreeInstallFromRemote s) := by
  unfold startFreeInstallFromRemoteInner
  rw [avoids_checkCallingUid_bind]
  refine imp_congr_right fun _ => ?_
  simp only [avoids_readParcelable_bind readWant_eq_some, avoids_readHelper_bind readInt32_eq_some,
    avoids_readHelper_bind readString_eq_some, avoids_readAccountInfo_bind,
    avoids_readHelper_bind readInt64_eq_some, avoids_readWant_bind, avoids_readD_bind,
    avoids_freeInstallTail fun _ _ _ => avoids_pure _,
    getD_readString (freeInstallReadable_empty hempty), Acceptable]
  constructor
  · rintro h want uid sourceDeviceId accountType groupIdList callerAppId taskId rest rfl
    obtain ⟨⟨cmpWant, hw⟩, hr⟩ := h _ _ rfl _ _ rfl _ _ rfl _ _ _ rfl _ _ rfl
    refine ⟨⟨cmpWant, ?_⟩, ?_⟩
    · obtain ⟨item, hi, hr⟩ := Option.bind_eq_some_iff.mp hw
      rw [hi, readWant_eq_some.mp hr]
    · rintro item extraInfo rest' rfl
      exact hr extraInfo rest' rfl
  · rintro h want _ rfl uid _ rfl sourceDeviceId _ rfl accountType groupIdList s₁ rfl taskId rest hs
    obtain ⟨callerAppId, rfl⟩ := tail_eq_cons.mp hs
    obtain ⟨⟨cmpWant, hw⟩, hr⟩ := h _ _ _ _ _ _ _ _ rfl
    refine ⟨⟨cmpWant, by rw [hw]; rfl⟩, fun extraInfo rest' hrest => ?_⟩
    obtain ⟨item, rfl⟩ := tail_eq_cons.mp hrest
    exact hr item extraInfo rest' rfl

/-- A run that does not die returns a code or calls the service. -/
theorem avoids_fatal_iff {α : Type} {m : StubM α} :
    Avoids StubExit.Fatal m s ↔ (∃ r, m s = .ok r) ∨ ∃ code, m s = .error (.returned code) := by
  cases hm : m s with
  | ok r => simp [Avoids, hm]
  | error e => cases e <;> simp [Avoids, hm, StubExit.Fatal]

end handlers

/-- **Remote messages are refused or served.**  A stub function calls the service or returns an
error code exactly when the calling uid is refused or the parcel is acceptable. -/
theorem remote_messages_refused {lib : NlohmannJson} (hempty : lib.parse "" = none)
    (env : StubEnv) (code : SchedCode) (data : List ParcelItem) :
    ((∃ call rest, remoteFuncs lib env code data = .ok (call, rest)) ∨
        ∃ err, remoteFuncs lib env code data = .error (.returned err)) ↔
      (env.callingUid < hidHap → Acceptable lib code data) := by
  rw [← Prod.exists (p := fun r => remoteFuncs lib env code data = .ok r), ← avoids_fatal_iff]
  cases code with
  | startAbilityFromRemote => exact startAbilityFromRemoteInner_avoids hempty
  | sendResultFromRemote => exact iff_of_true sendResultFromRemoteInner_avoids fun _ => trivial
  | connectAbilityFromRemote => exact connectAbilityFromRemoteInner_avoids hempty
  | startAbilityByCallFromRemote => exact startAbilityByCallFromRemoteInner_avoids hempty
  | startFreeInstallFromRemote => exact startFreeInstallFromRemoteInner_avoids hempty

/-- `nlohmann::json` on three texts. -/
def documents : NlohmannJson where
  parse text := if text = "[]" then some (.array []) else
    if text = "\x7b\x7d" then some (.object []) else
    if text = "null" then some .null else none
  dump
    | .array [] => "[]"
    | .object [] => "\x7b\x7d"
    | _ => "null"

/-- A text that is no document: the service is called. -/
theorem remote_messages_refused_text :
    (∃ call rest, remoteFuncs documents {} .startAbilityByCallFromRemote
        [.remoteObject 1, .int32 5, .int32 6, .string "A", .int32 0, .stringVector [],
          .string "app", .string "text", .want {}] = .ok (call, rest)) ∨
      ∃ err, remoteFuncs documents {} .startAbilityByCallFromRemote
        [.remoteObject 1, .int32 5, .int32 6, .string "A", .int32 0, .stringVector [],
          .string "app", .string "text", .want {}] = .error (.returned err) := by
  refine (@remote_messages_refused documents (by decide) {} .startAbilityByCallFromRemote
    _).mpr fun _ => ?_
  rintro connect uid pid sourceDeviceId accountType groupIdList callerAppId extraInfo rest h j hj
  cases h
  simp [documents] at hj

/-- **Messages that crash.**  Extra info that is an empty array throws in every stub function that
looks for a key of it, and a free install without its second want goes through a null pointer. -/
theorem documents_crash :
    remoteFuncs documents {} .startAbilityFromRemote
      [.want {}, .compatibleAbilityInfo {}, .int32 0, .int32 5, .string "A", .int32 0,
        .stringVector [], .string "app", .string "[]"] = .error .exception ∧
    remoteFuncs documents {} .connectAbilityFromRemote
      [.want {}, .compatibleAbilityInfo {}, .remoteObject 1, .int32 5, .int32 6, .string "A",
        .int32 0, .stringVector [], .string "app", .string "[]"] = .error .exception ∧
    remoteFuncs documents {} .startAbilityByCallFromRemote
      [.remoteObject 1, .int32 5, .int32 6, .string "A", .int32 0, .stringVector [],
        .string "app", .string "[]", .want {}] = .error .exception ∧
    remoteFuncs documents {} .startFreeInstallFromRemote
      [.want {}, .int32 5, .string "A", .int32 0, .stringVector [], .string "app", .int64 1,
        .want {}, .string "[]"] = .error .exception ∧
    remoteFuncs documents {} .startFreeInstallFromRemote
      [.want {}, .int32 5, .string "A", .int32 0, .stringVector [], .string "app", .int64 1] =
      .error .nullPointer :=
  ⟨rfl, rfl, rfl, rfl, rfl⟩

end DistributedSched
