import DistributedSched.Library.Runs
import DistributedSched.Library.TreeWalk
import DistributedSched.Base.Types

/-!
# Mission — snapshots of remote missions

A request for a snapshot takes it out of `cachedSnapshotInfos_`, or reads it from the distributed
store, writes it into its reply, and then puts it into the cache.  The store tells each change to
`OnChange`, which takes the snapshot of a mission that was deleted or updated out of the cache.

The changes of the store are numbered.  What is stored under a key is named by the key and the
number of the change that stored it (`Version`), and so is every snapshot that is made of it, which
the code copies and does not look at.

* `SnapshotCall.block`: the block that a request, or a call of `OnChange`, executes next.
* `Version.Current`: none of the changes came after it.
* `SnapshotStep.Fresh`: a snapshot is put back under the key that it was stored under, with no
  change of it processed in the meantime; and a change that `OnChange` passes over has nothing
  older in the cache.
* `no_stale_snapshot`: over every run of such steps, a request returns no snapshot that was stored
  before a change which had been processed when the request was made.
* `change_behind_reader`: a change that is processed while a reader holds the snapshot.
-/

namespace DistributedSched

open Std (ExtTreeMap)

/-- A change of the store. -/
structure SnapshotChange where
  key : String
  /-- the number of the changes before it -/
  number : Nat
  deleted : Bool
deriving DecidableEq

/-- What a change has stored under a key. -/
structure Version where
  key : String
  number : Nat
deriving DecidableEq

/-- `Snapshot`, by the stored value that its pixel map was made of. -/
structure Snapshot where
  pixelMap : Version
  createdTime : Int := 0
  lastAccessTime : Int := 0

/-- An entry of a `ChangeNotification`. -/
inductive ChangeEntry where
  | insert (change : SnapshotChange)
  | delete (change : SnapshotChange)
  | update (change : SnapshotChange)

def ChangeEntry.change : ChangeEntry → SnapshotChange
  | insert change | delete change | update change => change

/-- What the rest of the system answers. -/
structure SnapshotEnv where
  isFoundationCall : Bool := true
  /-- of `DtbschedmgrDeviceInfoStorage` -/
  getUuidByNetworkId : String → String := id
  /-- of `DnetworkAdapter` -/
  adapterGetUuidByNetworkId : String → String := id
  getNetworkIdByUuid : String → String := id
  /-- `SplitStr` at "_" -/
  splitStr : String → List String := fun strKey => [strKey]
  strToInt : String → Option Int := fun _ => none
  /-- whether `distributedDataStorage_` and its store are there and answer -/
  storage : Bool := true
  /-- whether `Snapshot::Create` makes a snapshot of the value -/
  create : Version → Bool := fun _ => true
  parcelWrites : Bool := true
  getTickCount : Int := 0

/-! ### The cache -/

/-- `GenerateKeyInfo`, and `GenerateKey` of the store. -/
def generateKeyInfo (devId : String) (missionId : Int) : String :=
  devId ++ "_" ++ toString missionId

def maxCachedItem : Nat := 10

/-- One round of the loop that looks for the item to make room for. -/
def olderItem (acc : Int × Option String) (item : String × Snapshot) : Int × Option String :=
  if acc.1 = -1 ∨ item.2.lastAccessTime < acc.1 then (item.2.lastAccessTime, some item.1) else acc

def eraseOldest (cached : Map String Snapshot) : Map String Snapshot :=
  if cached.size = maxCachedItem then
    match (cached.toList.foldl olderItem (-1, none)).2 with
    | some keyInfo => cached.erase keyInfo
    | none => cached
  else cached

def enqueueCachedSnapshotInfo (cached : Map String Snapshot) (deviceId : String)
    (missionId : Int) (snapshot : Snapshot) : Map String Snapshot :=
  if deviceId = "" then cached
  else
    let keyInfo := generateKeyInfo deviceId missionId
    if cached[keyInfo]?.any fun old => snapshot.createdTime < old.createdTime then cached
    else (eraseOldest cached).insert keyInfo snapshot

def dequeueCachedSnapshotInfo (getTickCount : Int) (cached : Map String Snapshot)
    (deviceId : String) (missionId : Int) : Option Snapshot × Map String Snapshot :=
  if deviceId = "" then (none, cached)
  else
    let keyInfo := generateKeyInfo deviceId missionId
    match cached[keyInfo]? with
    | some snapshot =>
      (some { snapshot with lastAccessTime := getTickCount }, cached.erase keyInfo)
    | none => (none, cached)

/-- Every item that has the uuid somewhere in its key. -/
def deleteCachedSnapshotInfo (env : SnapshotEnv) (cached : Map String Snapshot)
    (networkId : String) : Map String Snapshot :=
  if networkId = "" then cached
  else
    let uuid := env.getUuidByNetworkId networkId
    if uuid = "" then cached
    else cached.filter fun keyInfo _ => !keyInfo.contains uuid

/-- `ConvertToMissionSnapshot`: of the snapshot only the pixel map is kept. -/
def convertToMissionSnapshot (snapshot : Snapshot) : Version := snapshot.pixelMap

/-- `ConvertToSnapshot`: a new snapshot, with the times at 0. -/
def convertToSnapshot (missionSnapshot : Version) : Snapshot := { pixelMap := missionSnapshot }

/-! ### OnChange -/

/-- `KeyInfo::ParseInfo`. -/
def parseInfo (env : SnapshotEnv) (strKey : String) : Option (String × Int) :=
  match env.splitStr strKey with
  | [uuid, missionId] => (env.strToInt missionId).map fun missionId => (uuid, missionId)
  | _ => none

/-- The deletes and updates among the entries. -/
def passedOver (entries : List ChangeEntry) : List SnapshotChange :=
  entries.filterMap fun
    | .insert _ => none
    | .delete change | .update change => some change

/-- What a block of `OnChange` leaves: the cache, the entries that are left, and the deletes and
updates that it is done with. -/
structure OnChangeBlock where
  cached : Map String Snapshot
  todo : List ChangeEntry
  processed : List SnapshotChange

/-- The next entry; what the listeners are told is left out. -/
def onChange (env : SnapshotEnv) (cached : Map String Snapshot) :
    List ChangeEntry → OnChangeBlock
  | [] => ⟨cached, [], []⟩
  | .insert change :: entries =>
    match parseInfo env change.key with
    | none => ⟨cached, entries, []⟩
    | some (uuid, _) =>
      -- the call returns, whatever entries are left
      if env.getNetworkIdByUuid uuid = "" then ⟨cached, [], passedOver entries⟩
      else ⟨cached, entries, []⟩
  | .delete change :: entries =>
    match parseInfo env change.key with
    | none => ⟨cached, entries, [change]⟩
    | some (uuid, missionId) =>
      ⟨(dequeueCachedSnapshotInfo env.getTickCount cached uuid missionId).2, entries, [change]⟩
  | .update change :: entries =>
    match parseInfo env change.key with
    | none => ⟨cached, entries, [change]⟩
    | some (uuid, missionId) =>
      if env.getNetworkIdByUuid uuid = "" then ⟨cached, [], change :: passedOver entries⟩
      else
        ⟨(dequeueCachedSnapshotInfo env.getTickCount cached uuid missionId).2, entries, [change]⟩

/-! ### Requests and changes -/

/-- A call in progress, by the block it executes next.  `since` are the changes that had been
processed when the request was made. -/
inductive SnapshotCall where
  | dequeue (since : List SnapshotChange) (networkId uuid : String) (missionId : Int)
  | query (since : List SnapshotChange) (networkId : String) (missionId : Int)
  | reply (since : List SnapshotChange) (networkId : String) (missionId : Int)
      (missionSnapshot : Version)
  | enqueue (uuid : String) (missionId : Int) (missionSnapshot : Version)
  | onChange (todo : List ChangeEntry)

/-- A snapshot that was returned. -/
structure SnapshotAnswer where
  since : List SnapshotChange
  missionSnapshot : Version

structure Snapshots where
  cachedSnapshotInfos : Map String Snapshot := ∅
  /-- the store: under each key the number of the change that has stored its value -/
  store : Map String Nat := ∅
  /-- the changes of the store so far -/
  changes : List SnapshotChange := []
  /-- the deletes and updates that a call of `OnChange` is done with -/
  processed : List SnapshotChange := []
  calls : Map Nat SnapshotCall := ∅
  answers : List SnapshotAnswer := []

namespace Snapshots

variable (s : Snapshots)

/-- Call `i` goes on, or returns. -/
def goOn (i : Nat) (next : Option SnapshotCall) : Snapshots :=
  { s with calls := s.calls.put i next }

/-- The store is written, or a key is deleted. -/
def changeStore (key : String) (deleted : Bool) : Snapshots :=
  { s with
    store := s.store.put key (if deleted then none else some s.changes.length)
    changes := s.changes ++ [⟨key, s.changes.length, deleted⟩] }

/-- `Query`: the value under the key of the mission. -/
def query (env : SnapshotEnv) (networkId : String) (missionId : Int) : Option Version :=
  let uuid := env.getUuidByNetworkId networkId
  if !env.storage || networkId = "" || missionId < 0 || uuid = "" then none
  else
    let key := generateKeyInfo uuid missionId
    s.store[key]?.map fun number => ⟨key, number⟩

end Snapshots

namespace SnapshotCall

/-- The next block of call `i`. -/
def block (env : SnapshotEnv) (s : Snapshots) (i : Nat) : SnapshotCall → Snapshots
  | dequeue since networkId uuid missionId =>
    match dequeueCachedSnapshotInfo env.getTickCount s.cachedSnapshotInfos uuid missionId with
    | (some snapshot, cached) =>
      { s with cachedSnapshotInfos := cached }.goOn i
        (some (reply since networkId missionId (convertToMissionSnapshot snapshot)))
    | (none, cached) =>
      { s with cachedSnapshotInfos := cached }.goOn i (some (query since networkId missionId))
  | query since networkId missionId =>
    match s.query env networkId missionId with
    | none => s.goOn i none
    | some version =>
      s.goOn i (if env.create version then some (reply since networkId missionId version) else none)
  | reply since networkId missionId missionSnapshot =>
    if !env.parcelWrites then s.goOn i none
    else
      let uuid := env.adapterGetUuidByNetworkId networkId
      { s with answers := s.answers ++ [SnapshotAnswer.mk since missionSnapshot] }.goOn i
        (if uuid = "" then none else some (enqueue uuid missionId missionSnapshot))
  | enqueue uuid missionId missionSnapshot =>
    let snapshot := convertToSnapshot missionSnapshot
    { s with
      cachedSnapshotInfos :=
        enqueueCachedSnapshotInfo s.cachedSnapshotInfos uuid missionId snapshot }.goOn i none
  | onChange todo =>
    let b := DistributedSched.onChange env s.cachedSnapshotInfos todo
    { s with cachedSnapshotInfos := b.cached, processed := s.processed ++ b.processed }.goOn i
      (if b.todo.isEmpty then none else some (onChange b.todo))

end SnapshotCall

inductive SnapshotStep where
  /-- `GetRemoteMissionSnapshotInfoInner`, up to the uuid -/
  | request (env : SnapshotEnv) (i : Nat) (networkId : String) (missionId : Int)
  | change (key : String) (deleted : Bool)
  /-- `OnChange`, with changes that have happened -/
  | onChange (i : Nat) (inserts deletes updates : List SnapshotChange)
  /-- the next block of call `i` -/
  | block (env : SnapshotEnv) (i : Nat)
  | deleteCached (env : SnapshotEnv) (networkId : String)

namespace SnapshotStep

def apply (s : Snapshots) : SnapshotStep → Option Snapshots
  | request env i networkId missionId =>
    let uuid := env.getUuidByNetworkId networkId
    if s.calls.contains i then none
    else if !env.isFoundationCall || networkId = "" || missionId < 0 || uuid = "" then some s
    else some (s.goOn i (some (.dequeue s.processed networkId uuid missionId)))
  | change key deleted => some (s.changeStore key deleted)
  | onChange i inserts deletes updates =>
    if s.calls.contains i then none
    else if deletes.all (fun change => change.deleted && s.changes.contains change) &&
        (inserts ++ updates).all (fun change => !change.deleted && s.changes.contains change) then
      some (s.goOn i (some (.onChange
        (inserts.map .insert ++ deletes.map .delete ++ updates.map .update))))
    else none
  | block env i =>
    match s.calls[i]? with
    | none => none
    | some call => some (call.block env s i)
  | deleteCached env networkId =>
    some { s with
      cachedSnapshotInfos := deleteCachedSnapshotInfo env s.cachedSnapshotInfos networkId }

end SnapshotStep

/-! ### What may go wrong -/

/-- None of the changes of the key came after this one. -/
def Version.Current (version : Version) (changes : List SnapshotChange) : Prop :=
  ∀ change ∈ changes, change.key = version.key → change.number ≤ version.number

/-- The key names the mission that is taken out of the cache. -/
def Named (env : SnapshotEnv) (strKey : String) : Prop :=
  ∃ uuid missionId, parseInfo env strKey = some (uuid, missionId) ∧ uuid ≠ "" ∧
    generateKeyInfo uuid missionId = strKey

/-- The call of `OnChange` returns at the entry. -/
def ReturnsAt (env : SnapshotEnv) (strKey : String) : Prop :=
  ∃ uuid missionId, parseInfo env strKey = some (uuid, missionId) ∧
    env.getNetworkIdByUuid uuid = ""

/-- The change is a delete or an update that the next block of `OnChange` is done with, and does
not take out of the cache. -/
def Skipped (env : SnapshotEnv) (change : SnapshotChange) : List ChangeEntry → Prop
  | [] => False
  | .insert first :: entries => ReturnsAt env first.key ∧ change ∈ passedOver entries
  | .delete first :: _ => change = first ∧ ¬ Named env first.key
  | .update first :: entries =>
    change = first ∧ (ReturnsAt env first.key ∨ ¬ Named env first.key) ∨
      ReturnsAt env first.key ∧ change ∈ passedOver entries

/-- The condition on a block. -/
def SnapshotCall.Fresh (env : SnapshotEnv) (s : Snapshots) : SnapshotCall → Prop
  | enqueue uuid missionId missionSnapshot => uuid ≠ "" →
    missionSnapshot.key = generateKeyInfo uuid missionId ∧ missionSnapshot.Current s.processed
  | onChange todo => ∀ change, Skipped env change todo →
    ∀ snapshot : Snapshot, s.cachedSnapshotInfos[change.key]? = some snapshot →
      change.number ≤ snapshot.pixelMap.number
  | _ => True

def SnapshotStep.Fresh (s : Snapshots) : SnapshotStep → Prop
  | block env i => ∀ call, s.calls[i]? = some call → call.Fresh env s
  | _ => True

/-! ### The cache -/

section cache

variable {cached : Map String Snapshot} {keyInfo deviceId : String} {missionId : Int}
  {snapshot : Snapshot}

theorem eraseOldest_getElem? (h : (eraseOldest cached)[keyInfo]? = some snapshot) :
    cached[keyInfo]? = some snapshot := by
  unfold eraseOldest at h
  split at h
  · split at h
    · rw [ExtTreeMap.getElem?_erase] at h
      split at h
      · cases h
      · exact h
    · exact h
  · exact h

/-- What is in the cache was there, or is what was put in. -/
theorem enqueue_getElem? {new : Snapshot}
    (h : (enqueueCachedSnapshotInfo cached deviceId missionId new)[keyInfo]? = some snapshot) :
    cached[keyInfo]? = some snapshot ∨
      deviceId ≠ "" ∧ generateKeyInfo deviceId missionId = keyInfo ∧ new = snapshot := by
  unfold enqueueCachedSnapshotInfo at h
  split at h
  · exact .inl h
  rename_i hd
  dsimp only at h
  split at h
  · exact .inl h
  rw [ExtTreeMap.getElem?_insert] at h
  split at h
  · rename_i he
    exact .inr ⟨hd, Std.LawfulEqCmp.eq_of_compare he, Option.some.inj h⟩
  · exact .inl (eraseOldest_getElem? h)

theorem dequeue_getElem? {getTickCount : Int}
    (h : (dequeueCachedSnapshotInfo getTickCount cached deviceId missionId).2[keyInfo]? =
      some snapshot) :
    cached[keyInfo]? = some snapshot ∧
      (deviceId ≠ "" → generateKeyInfo deviceId missionId ≠ keyInfo) := by
  unfold dequeueCachedSnapshotInfo at h
  split at h
  · rename_i hd
    exact ⟨h, fun hne => absurd hd hne⟩
  dsimp only at h
  split at h
  · rw [ExtTreeMap.getElem?_erase] at h
    split at h
    · cases h
    · rename_i hne
      exact ⟨h, fun _ he => hne (Std.LawfulEqCmp.compare_eq_iff_eq.mpr he)⟩
  · rename_i hn
    refine ⟨h, fun _ he => ?_⟩
    rw [he] at hn
    cases hn.symm.trans h

/-- What is taken out was in the cache, but for the time. -/
theorem dequeue_fst {getTickCount : Int}
    (h : (dequeueCachedSnapshotInfo getTickCount cached deviceId missionId).1 = some snapshot) :
    ∃ old : Snapshot, cached[generateKeyInfo deviceId missionId]? = some old ∧
      old.pixelMap = snapshot.pixelMap := by
  unfold dequeueCachedSnapshotInfo at h
  split at h
  · cases h
  dsimp only at h
  split at h
  · rename_i old ho
    cases h
    exact ⟨old, ho, rfl⟩
  · cases h

theorem deleteCached_getElem? {env : SnapshotEnv} {networkId : String}
    (h : (deleteCachedSnapshotInfo env cached networkId)[keyInfo]? = some snapshot) :
    cached[keyInfo]? = some snapshot := by
  unfold deleteCachedSnapshotInfo at h
  split at h
  · exact h
  dsimp only at h
  split at h
  · exact h
  · rw [ExtTreeMap.getElem?_filter'] at h
    exact (Option.filter_eq_some_iff.mp h).1

end cache

/-! ### OnChange -/

section onChange

variable {env : SnapshotEnv} {cached : Map String Snapshot} {todo : List ChangeEntry}

theorem mem_passedOver {change : SnapshotChange} {entries : List ChangeEntry}
    (h : change ∈ passedOver entries) : ∃ entry ∈ entries, entry.change = change := by
  obtain ⟨entry, hm, he⟩ := List.mem_filterMap.mp h
  refine ⟨entry, hm, ?_⟩
  cases entry with
  | insert _ => cases he
  | delete _ => exact Option.some.inj he
  | update _ => exact Option.some.inj he

/-- A block takes items out of the cache, and is done with entries of the notification; what it
takes out it was told of, and what it is told of and does not take out it has skipped. -/
structure OnChangeSpec (env : SnapshotEnv) (cached : Map String Snapshot)
    (todo : List ChangeEntry) (b : OnChangeBlock) : Prop where
  kept : ∀ (keyInfo : String) (snapshot : Snapshot), b.cached[keyInfo]? = some snapshot →
    cached[keyInfo]? = some snapshot
  left : ∀ entry ∈ b.todo, entry ∈ todo
  told : ∀ change ∈ b.processed, ∃ entry ∈ todo, entry.change = change
  skipped : ∀ change ∈ b.processed, ∀ snapshot : Snapshot,
    b.cached[change.key]? = some snapshot → Skipped env change todo

/-- The item of an entry is taken out, unless its key does not name it. -/
theorem named_of_dequeue {strKey uuid : String} {missionId : Int}
    (hp : parseInfo env strKey = some (uuid, missionId)) {snapshot : Snapshot}
    (h : (dequeueCachedSnapshotInfo env.getTickCount cached uuid missionId).2[strKey]? =
      some snapshot) : ¬ Named env strKey := by
  rintro ⟨uuid', missionId', hp', hne, hk⟩
  obtain ⟨rfl, rfl⟩ := Prod.mk.inj (Option.some.inj (hp.symm.trans hp'))
  exact (dequeue_getElem? h).2 hne hk

theorem not_named_of_none {strKey : String} (hp : parseInfo env strKey = none) :
    ¬ Named env strKey := by
  rintro ⟨uuid, missionId, hp', -⟩
  cases hp.symm.trans hp'

/-- A block that passes an entry and does nothing. -/
theorem OnChangeSpec.pass (entry : ChangeEntry) (entries : List ChangeEntry) :
    OnChangeSpec env cached (entry :: entries) ⟨cached, entries, []⟩ where
  kept _ _ h := h
  left _ h := List.mem_cons_of_mem _ h
  told _ h := absurd h List.not_mem_nil
  skipped _ h := absurd h List.not_mem_nil

/-- A block that is done with one entry. -/
theorem OnChangeSpec.one {entry : ChangeEntry} {entries : List ChangeEntry}
    {cached' : Map String Snapshot}
    (hkept : ∀ (keyInfo : String) (snapshot : Snapshot), cached'[keyInfo]? = some snapshot →
      cached[keyInfo]? = some snapshot)
    (hskipped : ∀ snapshot : Snapshot, cached'[entry.change.key]? = some snapshot →
      Skipped env entry.change (entry :: entries)) :
    OnChangeSpec env cached (entry :: entries) ⟨cached', entries, [entry.change]⟩ where
  kept := hkept
  left _ h := List.mem_cons_of_mem _ h
  told _ h := ⟨entry, List.mem_cons_self, (List.mem_singleton.mp h).symm⟩
  skipped := List.forall_mem_singleton.mpr hskipped

/-- A block with which the call returns. -/
theorem OnChangeSpec.returned {todo : List ChangeEntry} {processed : List SnapshotChange}
    (hskipped : ∀ change ∈ processed, Skipped env change todo)
    (htold : ∀ change ∈ processed, ∃ entry ∈ todo, entry.change = change) :
    OnChangeSpec env cached todo ⟨cached, [], processed⟩ where
  kept _ _ h := h
  left _ h := absurd h List.not_mem_nil
  told := htold
  skipped change h _ _ := hskipped change h

theorem onChange_spec (env : SnapshotEnv) (cached : Map String Snapshot)
    (todo : List ChangeEntry) : OnChangeSpec env cached todo (onChange env cached todo) := by
  cases todo with
  | nil =>
      exact .returned (fun _ h => absurd h List.not_mem_nil) fun _ h => absurd h List.not_mem_nil
  | cons entry entries =>
      have hpassed : ∀ change ∈ passedOver entries,
          ∃ e ∈ entry :: entries, e.change = change := by
        intro change h
        obtain ⟨e, hm, he⟩ := mem_passedOver h
        exact ⟨e, List.mem_cons_of_mem _ hm, he⟩
      cases entry with
      | insert first =>
          rw [onChange]
          split
          · exact .pass _ _
          rename_i uuid missionId hp
          split
          · rename_i hn
            exact .returned (fun change h => ⟨⟨uuid, missionId, hp, hn⟩, h⟩) hpassed
          · exact .pass _ _
      | delete first =>
          rw [onChange]
          split
          · rename_i hp
            exact .one (fun _ _ h => h) fun _ _ => ⟨rfl, not_named_of_none hp⟩
          · rename_i uuid missionId hp
            exact .one (fun _ _ h => (dequeue_getElem? h).1)
              fun snapshot hs => ⟨rfl, named_of_dequeue hp hs⟩
      | update first =>
          rw [onChange]
          split
          · rename_i hp
            exact .one (fun _ _ h => h) fun _ _ => .inl ⟨rfl, .inr (not_named_of_none hp)⟩
          rename_i uuid missionId hp
          split
          · rename_i hn
            have hreturns : ReturnsAt env first.key := ⟨uuid, missionId, hp, hn⟩
            refine .returned (List.forall_mem_cons.mpr ⟨.inl ⟨rfl, .inl hreturns⟩,
              fun change h => .inr ⟨hreturns, h⟩⟩) (List.forall_mem_cons.mpr ⟨?_, hpassed⟩)
            exact ⟨.update first, List.mem_cons_self, rfl⟩
          · exact .one (fun _ _ h => (dequeue_getElem? h).1)
              fun snapshot hs => .inl ⟨rfl, .inr (named_of_dequeue hp hs)⟩

end onChange

/-! ### What holds between two blocks -/

theorem Version.Current.mono {version : Version} {changes changes' : List SnapshotChange}
    (h : version.Current changes') (hs : ∀ change ∈ changes, change ∈ changes') :
    version.Current changes :=
  fun change hm => h change (hs change hm)

/-- What a call knows: its request is older than what it will return, and the changes it is told
have happened. -/
def SnapshotCall.Knows (processed changes : List SnapshotChange) : SnapshotCall → Prop
  | dequeue since _ _ _ | query since _ _ => ∀ change ∈ since, change ∈ processed
  | reply since _ _ missionSnapshot => missionSnapshot.Current since
  | enqueue .. => True
  | onChange todo => ∀ entry ∈ todo, entry.change ∈ changes

namespace Snapshots

structure Inv (s : Snapshots) : Prop where
  /-- what is in the cache is under its key, and no change of it has been processed since -/
  cached : ∀ (keyInfo : String) (snapshot : Snapshot),
    s.cachedSnapshotInfos[keyInfo]? = some snapshot →
      snapshot.pixelMap.key = keyInfo ∧ snapshot.pixelMap.Current s.processed
  store : ∀ (key : String) (number : Nat), s.store[key]? = some number →
    (⟨key, number⟩ : Version).Current s.changes
  numbered : ∀ change ∈ s.changes, change.number < s.changes.length
  processed : ∀ change ∈ s.processed, change ∈ s.changes
  calls : ∀ (i : Nat) (call : SnapshotCall), s.calls[i]? = some call →
    call.Knows s.processed s.changes
  answers : ∀ answer ∈ s.answers, answer.missionSnapshot.Current answer.since

variable {s : Snapshots}

theorem init_inv : Inv {} where
  cached keyInfo snapshot h := by simp at h
  store key number h := by simp at h
  numbered _ h := absurd h List.not_mem_nil
  processed _ h := absurd h List.not_mem_nil
  calls i call h := by simp at h
  answers _ h := absurd h List.not_mem_nil

theorem Inv.goOn (h : s.Inv) (i : Nat) {next : Option SnapshotCall}
    (hn : ∀ call, next = some call → call.Knows s.processed s.changes) : (s.goOn i next).Inv :=
  { h with
    calls := fun j call hj => by
      obtain ⟨-, hnext⟩ | ⟨-, hj⟩ := ExtTreeMap.getElem?_put_eq_some.mp hj
      · exact hn call hnext
      · exact h.calls j call hj }

/-- Items leave the cache. -/
theorem Inv.shrink (h : s.Inv) {cached : Map String Snapshot}
    (hs : ∀ (keyInfo : String) (snapshot : Snapshot), cached[keyInfo]? = some snapshot →
      s.cachedSnapshotInfos[keyInfo]? = some snapshot) :
    Inv { s with cachedSnapshotInfos := cached } :=
  { h with cached := fun keyInfo snapshot hc => h.cached keyInfo snapshot (hs keyInfo snapshot hc) }

theorem Inv.changeStore (h : s.Inv) (key : String) (deleted : Bool) :
    (s.changeStore key deleted).Inv := by
  have hmem : ∀ change ∈ s.changes, change ∈ (s.changeStore key deleted).changes :=
    fun _ hm => List.mem_append_left _ hm
  refine { h with
    store := fun k number hk change hm hkey => ?_
    numbered := fun change hm => ?_
    processed := fun change hm => hmem change (h.processed change hm)
    calls := fun i call hi => ?_ }
  · obtain ⟨rfl, hn⟩ | ⟨hne, hk⟩ := ExtTreeMap.getElem?_put_eq_some.mp hk
    · -- the value that is written is the latest of all
      have hnumber : number = s.changes.length := by
        cases deleted <;> cases hn
        rfl
      subst hnumber
      obtain hm | hm := List.mem_append.mp hm
      · exact Nat.le_of_lt (h.numbered change hm)
      · obtain rfl := List.mem_singleton.mp hm
        exact Nat.le_refl _
    · obtain hm | hm := List.mem_append.mp hm
      · exact h.store k number hk change hm hkey
      · rw [List.mem_singleton.mp hm] at hkey
        exact absurd hkey hne
  · show change.number < (s.changes ++ [_]).length
    rw [List.length_append, List.length_singleton]
    obtain hm | hm := List.mem_append.mp hm
    · exact Nat.lt_succ_of_lt (h.numbered change hm)
    · rw [List.mem_singleton.mp hm]
      exact Nat.lt_succ_self _
  · have hknows := h.calls i call hi
    cases call with
    | onChange todo => exact fun entry hm => hmem _ (hknows entry hm)
    | _ => exact hknows

/-! ### Blocks -/

theorem Inv.dequeueBlock (h : s.Inv) {env : SnapshotEnv} {i : Nat} {since : List SnapshotChange}
    {networkId uuid : String} {missionId : Int}
    (hi : s.calls[i]? = some (.dequeue since networkId uuid missionId)) :
    ((SnapshotCall.dequeue since networkId uuid missionId).block env s i).Inv := by
  have hsince : ∀ change ∈ since, change ∈ s.processed := h.calls i _ hi
  rw [SnapshotCall.block]
  split
  · rename_i snapshot cached hd
    have hcached : ∀ (keyInfo : String) (x : Snapshot), cached[keyInfo]? = some x →
        s.cachedSnapshotInfos[keyInfo]? = some x :=
      fun keyInfo x hx => (dequeue_getElem? (by rw [hd]; exact hx)).1
    obtain ⟨old, hold, hp⟩ := dequeue_fst (congrArg Prod.fst hd)
    refine (h.shrink hcached).goOn i fun call hn => ?_
    cases hn
    show snapshot.pixelMap.Current since
    exact (hp ▸ (h.cached _ old hold).2).mono hsince
  · rename_i cached hd
    have hcached : ∀ (keyInfo : String) (x : Snapshot), cached[keyInfo]? = some x →
        s.cachedSnapshotInfos[keyInfo]? = some x :=
      fun keyInfo x hx => (dequeue_getElem? (by rw [hd]; exact hx)).1
    refine (h.shrink hcached).goOn i fun call hn => ?_
    cases hn
    exact hsince

/-- What the store answers is what the last change has stored. -/
theorem Inv.query (h : s.Inv) {env : SnapshotEnv} {networkId : String} {missionId : Int}
    {version : Version} (hq : s.query env networkId missionId = some version) :
    version.Current s.changes := by
  unfold Snapshots.query at hq
  dsimp only at hq
  split at hq
  · cases hq
  · obtain ⟨number, hn, rfl⟩ := Option.map_eq_some_iff.mp hq
    exact h.store _ number hn

theorem Inv.queryBlock (h : s.Inv) {env : SnapshotEnv} {i : Nat} {since : List SnapshotChange}
    {networkId : String} {missionId : Int}
    (hi : s.calls[i]? = some (.query since networkId missionId)) :
    ((SnapshotCall.query since networkId missionId).block env s i).Inv := by
  have hsince : ∀ change ∈ since, change ∈ s.processed := h.calls i _ hi
  rw [SnapshotCall.block]
  split
  · exact h.goOn i fun call hn => by cases hn
  · rename_i version hq
    refine h.goOn i fun call hn => ?_
    split at hn
    · cases hn
      exact (h.query hq).mono fun change hm => h.processed change (hsince change hm)
    · cases hn

theorem Inv.replyBlock (h : s.Inv) {env : SnapshotEnv} {i : Nat} {since : List SnapshotChange}
    {networkId : String} {missionId : Int} {missionSnapshot : Version}
    (hi : s.calls[i]? = some (.reply since networkId missionId missionSnapshot)) :
    ((SnapshotCall.reply since networkId missionId missionSnapshot).block env s i).Inv := by
  have hcurrent : missionSnapshot.Current since := h.calls i _ hi
  rw [SnapshotCall.block]
  split
  · exact h.goOn i fun call hn => by cases hn
  · have hanswers : Inv { s with
        answers := s.answers ++ [SnapshotAnswer.mk since missionSnapshot] } :=
      { h with
        answers :=
          List.forall_mem_append.mpr ⟨h.answers, List.forall_mem_singleton.mpr hcurrent⟩ }
    refine hanswers.goOn i fun call hn => ?_
    split at hn
    · cases hn
    · cases hn
      exact trivial

theorem Inv.enqueueBlock (h : s.Inv) {env : SnapshotEnv} (i : Nat) {uuid : String}
    {missionId : Int} {missionSnapshot : Version}
    (hok : (SnapshotCall.enqueue uuid missionId missionSnapshot).Fresh env s) :
    ((SnapshotCall.enqueue uuid missionId missionSnapshot).block env s i).Inv := by
  have hcached : Inv { s with
      cachedSnapshotInfos :=
        enqueueCachedSnapshotInfo s.cachedSnapshotInfos uuid missionId
          (convertToSnapshot missionSnapshot) } := by
    refine { h with cached := fun keyInfo snapshot hs => ?_ }
    obtain hold | ⟨hne, rfl, rfl⟩ := enqueue_getElem? hs
    · exact h.cached keyInfo snapshot hold
    · exact hok hne
  exact hcached.goOn i fun call hn => by cases hn

theorem Inv.onChangeBlock (h : s.Inv) {env : SnapshotEnv} {i : Nat} {todo : List ChangeEntry}
    (hi : s.calls[i]? = some (.onChange todo))
    (hok : (SnapshotCall.onChange todo).Fresh env s) :
    ((SnapshotCall.onChange todo).block env s i).Inv := by
  have hknown : ∀ entry ∈ todo, entry.change ∈ s.changes := h.calls i _ hi
  have hspec := onChange_spec env s.cachedSnapshotInfos todo
  rw [SnapshotCall.block]
  generalize onChange env s.cachedSnapshotInfos todo = b at hspec
  have hprocessed : Inv { s with
      cachedSnapshotInfos := b.cached, processed := s.processed ++ b.processed } := by
    refine { h with
      cached := fun keyInfo snapshot hs => ?_
      processed := List.forall_mem_append.mpr ⟨h.processed, fun change hm => ?_⟩
      calls := fun j call hj => ?_ }
    · obtain ⟨hkey, hcurrent⟩ := h.cached keyInfo snapshot (hspec.kept keyInfo snapshot hs)
      refine ⟨hkey, List.forall_mem_append.mpr ⟨hcurrent, fun change hm hc => ?_⟩⟩
      -- what is still in the cache was passed over, and is not older
      have hs' : b.cached[change.key]? = some snapshot := by rw [hc, hkey]; exact hs
      exact hok change (hspec.skipped change hm snapshot hs') snapshot
        (hspec.kept change.key snapshot hs')
    · obtain ⟨entry, he, rfl⟩ := hspec.told change hm
      exact hknown entry he
    · have hknows := h.calls j call hj
      cases call with
      | dequeue => exact fun change hm => List.mem_append_left _ (hknows change hm)
      | query => exact fun change hm => List.mem_append_left _ (hknows change hm)
      | _ => exact hknows
  refine hprocessed.goOn i fun call hn => ?_
  split at hn
  · cases hn
  · cases hn
    exact fun entry hm => hknown entry (hspec.left entry hm)

theorem Inv.step (h : s.Inv) {step : SnapshotStep} {s' : Snapshots} (hok : step.Fresh s)
    (hs : step.apply s = some s') : s'.Inv := by
  cases step with
  | request env i networkId missionId =>
      simp only [SnapshotStep.apply] at hs
      split at hs
      · cases hs
      split at hs
      · cases hs
        exact h
      · cases hs
        refine h.goOn i fun call hn => ?_
        cases hn
        exact fun _ hm => hm
  | change key deleted =>
      cases hs
      exact h.changeStore key deleted
  | onChange i inserts deletes updates =>
      simp only [SnapshotStep.apply] at hs
      split at hs
      · cases hs
      split at hs
      · rename_i hall
        cases hs
        refine h.goOn i fun call hn => ?_
        cases hn
        simp only [Bool.and_eq_true, List.all_eq_true, List.mem_append, List.contains_eq_mem,
          decide_eq_true_eq] at hall
        intro entry hm
        simp only [List.mem_append, List.mem_map] at hm
        obtain (⟨change, hm, rfl⟩ | ⟨change, hm, rfl⟩) | ⟨change, hm, rfl⟩ := hm
        · exact (hall.2 change (.inl hm)).2
        · exact (hall.1 change hm).2
        · exact (hall.2 change (.inr hm)).2
      · cases hs
  | block env i =>
      simp only [SnapshotStep.apply] at hs
      split at hs
      · cases hs
      rename_i call hi
      cases hs
      cases call with
      | dequeue since networkId uuid missionId => exact h.dequeueBlock hi
      | query since networkId missionId => exact h.queryBlock hi
      | reply since networkId missionId missionSnapshot => exact h.replyBlock hi
      | enqueue uuid missionId missionSnapshot => exact h.enqueueBlock i (hok _ hi)
      | onChange todo => exact h.onChangeBlock hi (hok _ hi)
  | deleteCached env networkId =>
      cases hs
      exact h.shrink fun _ _ => deleteCached_getElem?

end Snapshots

/-! ### Every run -/

/-- **No stale snapshot after a change.**  In a run of fresh steps, a snapshot that is returned was
stored by the last of the changes of its key that had been processed when the request was made, or
later. -/
theorem no_stale_snapshot {s : Snapshots}
    (h : Runs.Reach SnapshotStep.apply (fun s step => step.Fresh s) {} s) :
    ∀ answer ∈ s.answers, ∀ change ∈ answer.since, change.key = answer.missionSnapshot.key →
      change.number ≤ answer.missionSnapshot.number := by
  have hinv : s.Inv := by
    refine h.invariant (P := Snapshots.Inv) Snapshots.init_inv fun s step s' hi hok hs => ?_
    exact hi.step hok hs
  exact hinv.answers

/-- Mission 3 of device "u", whose network id is found or not. -/
def snapshotEnv (found : Bool) : SnapshotEnv :=
  { splitStr := fun _ => ["u", "3"], strToInt := fun _ => some 3
    getNetworkIdByUuid := fun _ => if found then "u" else "" }

/-- The key of mission 3 is written, and the first snapshot goes into a reply. -/
def firstReply : List SnapshotStep :=
  [.change "u_3" false, .request (snapshotEnv true) 0 "u" 3,
    .block (snapshotEnv true) 0, .block (snapshotEnv true) 0, .block (snapshotEnv true) 0]

/-- The key is written again, and `OnChange` runs. -/
def secondChange (found : Bool) : List SnapshotStep :=
  [.change "u_3" false, .onChange 1 [] [] [⟨"u_3", 1, false⟩], .block (snapshotEnv found) 1]

/-- A request that finds the snapshot in the cache. -/
def secondReply : List SnapshotStep :=
  [.request (snapshotEnv true) 0 "u" 3,
    .block (snapshotEnv true) 0, .block (snapshotEnv true) 0]

/-- The snapshot is in the cache when the change is processed, and a request after it reads the
store. -/
theorem no_stale_snapshot_second : ∃ s : Snapshots, ∃ answer ∈ s.answers,
    answer.since = [⟨"u_3", 1, false⟩] ∧ answer.missionSnapshot = ⟨"u_3", 1⟩ ∧
    ∀ change ∈ answer.since, change.key = answer.missionSnapshot.key →
      change.number ≤ answer.missionSnapshot.number := by
  have hreturns : ¬ ReturnsAt (snapshotEnv true) "u_3" := by
    rintro ⟨uuid, missionId, hp, hn⟩
    cases hp
    exact absurd hn (by decide)
  have hnamed : Named (snapshotEnv true) "u_3" := ⟨"u", 3, rfl, by decide, rfl⟩
  have htaken : ∀ s, (SnapshotCall.onChange [.update ⟨"u_3", 1, false⟩]).Fresh
      (snapshotEnv true) s := by
    rintro s change (⟨-, hr | hn⟩ | ⟨hr, -⟩)
    · exact absurd hr hreturns
    · exact absurd hnamed hn
    · exact absurd hr hreturns
  obtain ⟨s, hrun, hmem⟩ : ∃ s, Runs.Reach SnapshotStep.apply (fun s step => step.Fresh s) {} s ∧
      ⟨[⟨"u_3", 1, false⟩], ⟨"u_3", 1⟩⟩ ∈ s.answers :=
    ⟨_,
    .next (.next (.next (.next (.next (.next (.next (.next (.next (.next (.next (.next (.next .init
    (l := .change "u_3" false) trivial rfl)
    (l := .request (snapshotEnv true) 0 "u" 3) trivial rfl)
    (l := .block (snapshotEnv true) 0) (ExtTreeMap.forall_getElem? rfl trivial) rfl)
    (l := .block (snapshotEnv true) 0) (ExtTreeMap.forall_getElem? rfl trivial) rfl)
    (l := .block (snapshotEnv true) 0) (ExtTreeMap.forall_getElem? rfl trivial) rfl)
    (l := .block (snapshotEnv true) 0) (ExtTreeMap.forall_getElem? rfl fun _ =>
      ⟨rfl, fun _ hm => absurd hm List.not_mem_nil⟩) rfl)
    (l := .change "u_3" false) trivial rfl)
    (l := .onChange 1 [] [] [⟨"u_3", 1, false⟩]) trivial rfl)
    (l := .block (snapshotEnv true) 1) (ExtTreeMap.forall_getElem? rfl (htaken _)) rfl)
    (l := .request (snapshotEnv true) 0 "u" 3) trivial rfl)
    (l := .block (snapshotEnv true) 0) (ExtTreeMap.forall_getElem? rfl trivial) rfl)
    (l := .block (snapshotEnv true) 0) (ExtTreeMap.forall_getElem? rfl trivial) rfl)
    (l := .block (snapshotEnv true) 0) (ExtTreeMap.forall_getElem? rfl trivial) rfl,
    List.mem_append_right _ (List.mem_singleton_self _)⟩
  exact ⟨s, _, hmem, rfl, rfl, no_stale_snapshot hrun _ hmem⟩

/-- A change that is processed while a reader holds the snapshot is behind it: the snapshot from
before goes into the cache, and into the next reply.  So does the one that is in the cache when
`OnChange` does not find the network id. -/
theorem change_behind_reader :
    (∃ s, Runs.exec SnapshotStep.apply {} (firstReply ++ secondChange true ++
        .block (snapshotEnv true) 0 :: secondReply) = some s ∧
      ∃ answer ∈ s.answers, ∃ change ∈ answer.since,
        change.key = answer.missionSnapshot.key ∧
        answer.missionSnapshot.number < change.number) ∧
    (∃ s, Runs.exec SnapshotStep.apply {} (firstReply ++ .block (snapshotEnv true) 0 ::
        secondChange false ++ secondReply) = some s ∧
      ∃ answer ∈ s.answers, ∃ change ∈ answer.since,
        change.key = answer.missionSnapshot.key ∧
        answer.missionSnapshot.number < change.number) := by
  constructor
  · exact ⟨_, rfl, ⟨[⟨"u_3", 1, false⟩], ⟨"u_3", 0⟩⟩,
      List.mem_append_right _ (List.mem_singleton_self _), _, List.mem_singleton_self _, rfl,
      Nat.zero_lt_one⟩
  · exact ⟨_, rfl, ⟨[⟨"u_3", 1, false⟩], ⟨"u_3", 0⟩⟩,
      List.mem_append_right _ (List.mem_singleton_self _), _, List.mem_singleton_self _, rfl,
      Nat.zero_lt_one⟩

end DistributedSched
