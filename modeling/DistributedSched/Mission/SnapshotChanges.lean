import DistributedSched.Mission.SnapshotCache

/-!
# Mission — the entries of a change notification

A whole call of `OnChange`: three loops, over the entries that were inserted, deleted and updated.
An inserted or updated entry whose device has no known network id makes the call return, with all
the entries that are left, also those of the loops after it.

* `onChangeCall_eq`: the three loops are one walk over all the entries, which stops at the first
  entry that returns.
* `EntriesIndependent`: what the call owes to each entry.
* `NothingDropped`: no entry that is left has anything to do.
* `entries_independent_iff`: the entries are independent exactly when nothing is dropped.
-/

namespace DistributedSched

open Std (ExtTreeMap)

/-- What a call of `OnChange` has done so far. -/
structure OnChangeRun where
  cached : Map String Snapshot
  /-- the calls of `NotifySnapshotChanged` -/
  notified : List (String × Int) := []
  returned : Bool := false

/-! ### The loops -/

def onInserts (env : SnapshotEnv) (r : OnChangeRun) : List SnapshotChange → OnChangeRun
  | [] => r
  | change :: inserts =>
    match parseInfo env change.key with
    | none => onInserts env r inserts
    | some (uuid, missionId) =>
      let networkId := env.getNetworkIdByUuid uuid
      if networkId = "" then { r with returned := true }
      else onInserts env { r with notified := r.notified ++ [(networkId, missionId)] } inserts

def onDeletes (env : SnapshotEnv) (r : OnChangeRun) : List SnapshotChange → OnChangeRun
  | [] => r
  | change :: deletes =>
    match parseInfo env change.key with
    | none => onDeletes env r deletes
    | some (uuid, missionId) =>
      onDeletes env { r with
        cached := (dequeueCachedSnapshotInfo env.getTickCount r.cached uuid missionId).2 } deletes

def onUpdates (env : SnapshotEnv) (r : OnChangeRun) : List SnapshotChange → OnChangeRun
  | [] => r
  | change :: updates =>
    match parseInfo env change.key with
    | none => onUpdates env r updates
    | some (uuid, missionId) =>
      let networkId := env.getNetworkIdByUuid uuid
      if networkId = "" then { r with returned := true }
      else onUpdates env { r with
        cached := (dequeueCachedSnapshotInfo env.getTickCount r.cached uuid missionId).2
        notified := r.notified ++ [(networkId, missionId)] } updates

/-- `OnChange`. -/
def onChangeCall (env : SnapshotEnv) (cached : Map String Snapshot)
    (inserts deletes updates : List SnapshotChange) : OnChangeRun :=
  let r := onInserts env ⟨cached, [], false⟩ inserts
  if r.returned then r
  else onUpdates env (onDeletes env r deletes) updates

/-- All the entries, in the order of the loops. -/
def changeEntries (inserts deletes updates : List SnapshotChange) : List ChangeEntry :=
  inserts.map .insert ++ deletes.map .delete ++ updates.map .update

namespace ChangeEntry

/-- The snapshot that the entry takes out of the cache. -/
def removes (env : SnapshotEnv) : ChangeEntry → Option String
  | insert _ => none
  | delete change | update change =>
    (parseInfo env change.key).map fun key => generateKeyInfo key.1 key.2

/-- The call of `NotifySnapshotChanged` for the entry. -/
def notifies (env : SnapshotEnv) : ChangeEntry → Option (String × Int)
  | delete _ => none
  | insert change | update change =>
    (parseInfo env change.key).bind fun key =>
      let networkId := env.getNetworkIdByUuid key.1
      if networkId = "" then none else some (networkId, key.2)

/-- The call returns at the entry. -/
def returns (env : SnapshotEnv) : ChangeEntry → Bool
  | delete _ => false
  | insert change | update change =>
    (parseInfo env change.key).any fun key => env.getNetworkIdByUuid key.1 = ""

end ChangeEntry

/-- The call is done with each of the entries: a delete or update of a well-formed key leaves no
snapshot, an insert or update of a known device notifies once, and no other snapshot goes. -/
structure EntriesIndependent (env : SnapshotEnv) (cached : Map String Snapshot)
    (entries : List ChangeEntry) (r : OnChangeRun) : Prop where
  gone : ∀ entry ∈ entries, ∀ keyInfo, entry.removes env = some keyInfo → r.cached[keyInfo]? = none
  notified : r.notified = entries.filterMap (ChangeEntry.notifies env)
  others : ∀ keyInfo : String, (∀ entry ∈ entries, entry.removes env ≠ some keyInfo) →
    r.cached[keyInfo]? = cached[keyInfo]?

/-- The entries before the first one that returns. -/
def handledEntries (env : SnapshotEnv) (entries : List ChangeEntry) : List ChangeEntry :=
  entries.takeWhile fun entry => !entry.returns env

/-- The first entry that returns, and those after it. -/
def droppedEntries (env : SnapshotEnv) (entries : List ChangeEntry) : List ChangeEntry :=
  entries.dropWhile fun entry => !entry.returns env

/-- The entries that are dropped have nobody to notify, and their snapshots are not in the cache,
or go with an entry that is not dropped. -/
structure NothingDropped (env : SnapshotEnv) (cached : Map String Snapshot)
    (entries : List ChangeEntry) : Prop where
  notices : ∀ entry ∈ droppedEntries env entries, entry.notifies env = none
  snapshots : ∀ entry ∈ droppedEntries env entries, ∀ keyInfo,
    entry.removes env = some keyInfo → cached[keyInfo]? = none ∨
      ∃ handled ∈ handledEntries env entries, handled.removes env = some keyInfo

/-! ### One walk over the entries -/

/-- An entry that does not return. -/
def handleEntry (env : SnapshotEnv) (r : OnChangeRun) (entry : ChangeEntry) : OnChangeRun :=
  { r with
    cached := match entry.removes env with
      | some keyInfo => r.cached.erase keyInfo
      | none => r.cached
    notified := r.notified ++ (entry.notifies env).toList }

def walkEntries (env : SnapshotEnv) (r : OnChangeRun) : List ChangeEntry → OnChangeRun
  | [] => r
  | entry :: entries =>
    if entry.returns env then { r with returned := true }
    else walkEntries env (handleEntry env r entry) entries

section walk

variable {env : SnapshotEnv}

theorem ne_empty_of_parseInfo (hsplit : ∀ strKey, "" ∉ env.splitStr strKey) {strKey uuid : String}
    {missionId : Int} (h : parseInfo env strKey = some (uuid, missionId)) : uuid ≠ "" := by
  unfold parseInfo at h
  split at h
  · rename_i uuid' missionId' hs
    obtain ⟨i, -, hi⟩ := Option.map_eq_some_iff.mp h
    obtain ⟨rfl, rfl⟩ := Prod.mk.inj hi
    rintro rfl
    exact hsplit strKey (hs ▸ List.mem_cons_self)
  · cases h

/-- A snapshot that is taken out: nothing else of the cache changes. -/
theorem dequeue_snd {uuid : String} (hd : uuid ≠ "") (cached : Map String Snapshot)
    (missionId : Int) : (dequeueCachedSnapshotInfo env.getTickCount cached uuid missionId).2 =
      cached.erase (generateKeyInfo uuid missionId) := by
  rw [dequeue_eq hd]

/-- A malformed key: the entry is passed over. -/
theorem walkEntries_malformed {entry : ChangeEntry} (hp : parseInfo env entry.change.key = none)
    (r : OnChangeRun) (entries : List ChangeEntry) :
    walkEntries env r (entry :: entries) = walkEntries env r entries := by
  have hreturns : entry.returns env = false := by
    cases entry with
    | delete change => rfl
    | insert change | update change =>
        rw [ChangeEntry.change] at hp
        rw [ChangeEntry.returns, hp]
        rfl
  have hhandle : handleEntry env r entry = r := by
    cases entry with
    | insert change | delete change | update change =>
        rw [ChangeEntry.change] at hp
        simp [handleEntry, ChangeEntry.removes, ChangeEntry.notifies, hp]
  rw [walkEntries, hreturns, hhandle]
  rfl

theorem onInserts_eq (inserts : List SnapshotChange) (r : OnChangeRun) :
    onInserts env r inserts = walkEntries env r (inserts.map .insert) := by
  induction inserts generalizing r with
  | nil => rfl
  | cons change inserts ih =>
      rw [onInserts, List.map_cons]
      split
      · rename_i hp
        rw [walkEntries_malformed hp, ih]
      · rename_i uuid missionId hp
        rw [walkEntries]
        by_cases hn : env.getNetworkIdByUuid uuid = ""
        · simp [ChangeEntry.returns, hp, hn]
        · simp [ChangeEntry.returns, handleEntry, ChangeEntry.removes, ChangeEntry.notifies, hp, hn,
            ih]

theorem onDeletes_eq (hsplit : ∀ strKey, "" ∉ env.splitStr strKey) (deletes : List SnapshotChange)
    (r : OnChangeRun) : onDeletes env r deletes = walkEntries env r (deletes.map .delete) := by
  induction deletes generalizing r with
  | nil => rfl
  | cons change deletes ih =>
      rw [onDeletes, List.map_cons]
      split
      · rename_i hp
        rw [walkEntries_malformed hp, ih]
      · rename_i uuid missionId hp
        rw [walkEntries, ih, dequeue_snd (ne_empty_of_parseInfo hsplit hp)]
        simp [ChangeEntry.returns, handleEntry, ChangeEntry.removes, ChangeEntry.notifies, hp]

theorem onUpdates_eq (hsplit : ∀ strKey, "" ∉ env.splitStr strKey) (updates : List SnapshotChange)
    (r : OnChangeRun) : onUpdates env r updates = walkEntries env r (updates.map .update) := by
  induction updates generalizing r with
  | nil => rfl
  | cons change updates ih =>
      rw [onUpdates, List.map_cons]
      split
      · rename_i hp
        rw [walkEntries_malformed hp, ih]
      · rename_i uuid missionId hp
        rw [walkEntries, dequeue_snd (ne_empty_of_parseInfo hsplit hp)]
        by_cases hn : env.getNetworkIdByUuid uuid = ""
        · simp [ChangeEntry.returns, hp, hn]
        · simp [ChangeEntry.returns, handleEntry, ChangeEntry.removes, ChangeEntry.notifies, hp, hn,
            ih]

/-- A walk over two lists: the second is not walked when the first has returned. -/
theorem walkEntries_append (entries entries' : List ChangeEntry) (r : OnChangeRun)
    (hr : r.returned = false) :
    walkEntries env r (entries ++ entries') =
      if (walkEntries env r entries).returned then walkEntries env r entries
      else walkEntries env (walkEntries env r entries) entries' := by
  induction entries generalizing r with
  | nil => simp [walkEntries, hr]
  | cons entry entries ih =>
      rw [List.cons_append, walkEntries, walkEntries]
      split
      · rfl
      · exact ih (handleEntry env r entry) hr

theorem walkEntries_delete_returned (deletes : List SnapshotChange) (r : OnChangeRun) :
    (walkEntries env r (deletes.map .delete)).returned = r.returned := by
  induction deletes generalizing r with
  | nil => rfl
  | cons change deletes ih =>
      rw [List.map_cons, walkEntries]
      exact ih _

/-- **The three loops are one walk.** -/
theorem onChangeCall_eq (hsplit : ∀ strKey, "" ∉ env.splitStr strKey) (cached : Map String Snapshot)
    (inserts deletes updates : List SnapshotChange) :
    onChangeCall env cached inserts deletes updates =
      walkEntries env ⟨cached, [], false⟩ (changeEntries inserts deletes updates) := by
  rw [onChangeCall, changeEntries, List.append_assoc, walkEntries_append _ _ _ rfl, onInserts_eq]
  split
  · rfl
  rename_i hr
  rw [walkEntries_append _ _ _ (by simpa using hr), walkEntries_delete_returned, if_neg hr,
    onUpdates_eq hsplit, onDeletes_eq hsplit]

theorem handledEntries_cons (entry : ChangeEntry) (entries : List ChangeEntry) :
    handledEntries env (entry :: entries) =
      if entry.returns env then [] else entry :: handledEntries env entries := by
  rw [handledEntries, List.takeWhile_cons]
  cases entry.returns env <;> rfl

theorem walkEntries_notified (entries : List ChangeEntry) (r : OnChangeRun) :
    (walkEntries env r entries).notified =
      r.notified ++ (handledEntries env entries).filterMap (ChangeEntry.notifies env) := by
  induction entries generalizing r with
  | nil => simp [walkEntries, handledEntries]
  | cons entry entries ih =>
      rw [walkEntries, handledEntries_cons]
      split
      · simp
      · rw [ih, handleEntry, List.append_assoc]
        cases hn : entry.notifies env with
        | none => simp [hn]
        | some notice => simp [hn]

/-- The snapshots of the entries before the first that returns are gone, the others are as they
were. -/
theorem walkEntries_getElem? (entries : List ChangeEntry) (r : OnChangeRun) (keyInfo : String) :
    (walkEntries env r entries).cached[keyInfo]? =
      if ∃ entry ∈ handledEntries env entries, entry.removes env = some keyInfo then none
      else r.cached[keyInfo]? := by
  induction entries generalizing r with
  | nil => simp [walkEntries, handledEntries]
  | cons entry entries ih =>
      rw [walkEntries, handledEntries_cons]
      split
      · simp
      · rw [ih]
        simp only [handleEntry, List.mem_cons, exists_eq_or_imp]
        by_cases hrest : ∃ e ∈ handledEntries env entries, e.removes env = some keyInfo
        · rw [if_pos hrest, if_pos (.inr hrest)]
        · rw [if_neg hrest]
          simp only [hrest, or_false]
          cases hremoves : entry.removes env with
          | none => simp
          | some removed =>
              rw [ExtTreeMap.getElem?_erase]
              simp only [Std.LawfulEqCmp.compare_eq_iff_eq, Option.some.injEq]

/-- **One block.**  The walk goes on as the blocks of `onChange` do, one entry at a time. -/
theorem walkEntries_block (hsplit : ∀ strKey, "" ∉ env.splitStr strKey) (entry : ChangeEntry)
    (entries : List ChangeEntry) (r : OnChangeRun) :
    (walkEntries env r (entry :: entries)).cached =
      (walkEntries env { r with cached := (onChange env r.cached (entry :: entries)).cached }
        (onChange env r.cached (entry :: entries)).todo).cached := by
  have hsame : ∀ (es : List ChangeEntry) {r r' : OnChangeRun}, r.cached = r'.cached →
      (walkEntries env r es).cached = (walkEntries env r' es).cached := by
    intro es r r' hr
    refine ExtTreeMap.ext_getElem? fun keyInfo => ?_
    rw [walkEntries_getElem?, walkEntries_getElem?, hr]
  cases hp : parseInfo env entry.change.key with
  | none =>
      rw [walkEntries_malformed hp]
      cases entry with
      | insert change | delete change | update change =>
          rw [ChangeEntry.change] at hp
          simp only [onChange, hp]
  | some key =>
      obtain ⟨uuid, missionId⟩ := key
      have hd := ne_empty_of_parseInfo hsplit hp
      cases entry with
      | insert change =>
          rw [ChangeEntry.change] at hp
          simp only [walkEntries, ChangeEntry.returns, onChange, hp, Option.any_some,
            decide_eq_true_eq]
          split
          · rfl
          · exact hsame entries rfl
      | delete change =>
          rw [ChangeEntry.change] at hp
          simp only [walkEntries, ChangeEntry.returns, onChange, hp, dequeue_snd hd,
            Bool.false_eq_true, if_false]
          exact hsame entries (by simp [handleEntry, ChangeEntry.removes, hp])
      | update change =>
          rw [ChangeEntry.change] at hp
          simp only [walkEntries, ChangeEntry.returns, onChange, hp, dequeue_snd hd,
            Option.any_some, decide_eq_true_eq]
          split
          · rfl
          · exact hsame entries (by simp [handleEntry, ChangeEntry.removes, hp])

theorem entries_eq (entries : List ChangeEntry) :
    entries = handledEntries env entries ++ droppedEntries env entries :=
  List.takeWhile_append_dropWhile.symm

end walk

/-- **The entries of a notification.**  A call of `OnChange` handles each entry independently of
the others exactly when the entries that an early return drops have nothing to do. -/
theorem entries_independent_iff {env : SnapshotEnv} (hsplit : ∀ strKey, "" ∉ env.splitStr strKey)
    (cached : Map String Snapshot) (inserts deletes updates : List SnapshotChange) :
    EntriesIndependent env cached (changeEntries inserts deletes updates)
        (onChangeCall env cached inserts deletes updates) ↔
      NothingDropped env cached (changeEntries inserts deletes updates) := by
  rw [onChangeCall_eq hsplit]
  generalize changeEntries inserts deletes updates = entries
  have hsplits : ∀ entry, entry ∈ entries ↔
      entry ∈ handledEntries env entries ∨ entry ∈ droppedEntries env entries := by
    intro entry
    rw [← List.mem_append, ← entries_eq]
  have hcached : ∀ keyInfo : String,
      (walkEntries env ⟨cached, [], false⟩ entries).cached[keyInfo]? =
      if ∃ entry ∈ handledEntries env entries, entry.removes env = some keyInfo then none
      else cached[keyInfo]? := walkEntries_getElem? entries ⟨cached, [], false⟩
  have hnotified : (walkEntries env ⟨cached, [], false⟩ entries).notified =
        entries.filterMap (ChangeEntry.notifies env) ↔
      (droppedEntries env entries).filterMap (ChangeEntry.notifies env) = [] := by
    rw [walkEntries_notified, List.nil_append]
    nth_rewrite 2 [@entries_eq env entries]
    rw [List.filterMap_append, List.self_eq_append_right]
  constructor
  · intro h
    constructor
    · exact List.filterMap_eq_nil_iff.mp (hnotified.mp h.notified)
    · intro entry hm keyInfo hk
      have hgone := h.gone entry ((hsplits entry).mpr (.inr hm)) keyInfo hk
      rw [hcached] at hgone
      split at hgone
      · rename_i hhandled
        exact .inr hhandled
      · exact .inl hgone
  · intro h
    refine ⟨fun entry hm keyInfo hk => ?_, ?_, fun keyInfo hk => ?_⟩
    · rw [hcached]
      split
      · rfl
      · rename_i hnot
        rcases (hsplits entry).mp hm with hh | hd
        · exact absurd ⟨entry, hh, hk⟩ hnot
        · exact (h.snapshots entry hd keyInfo hk).resolve_right hnot
    · exact hnotified.mpr (List.filterMap_eq_nil_iff.mpr h.notices)
    · rw [hcached, if_neg]
      rintro ⟨entry, hh, he⟩
      exact hk entry ((hsplits entry).mpr (.inl hh)) he

/-- Device "u" has network id "n", and device "x" none. -/
def changeEnv : SnapshotEnv :=
  { splitStr := fun strKey =>
      if strKey = "u_3" then ["u", "3"] else if strKey = "x_1" then ["x", "1"] else []
    strToInt := fun str => if str = "3" then some 3 else if str = "1" then some 1 else none
    getNetworkIdByUuid := fun uuid => if uuid = "u" then "n" else "" }

theorem not_mem_changeEnv (strKey : String) : "" ∉ changeEnv.splitStr strKey := by
  simp only [changeEnv]
  split
  · decide
  split
  · decide
  · exact List.not_mem_nil

/-- A snapshot of mission 3 of device "u" and one of mission 1 of device "x". -/
def changeCache : Map String Snapshot :=
  ((∅ : Map String Snapshot).insert "u_3" ⟨⟨"u_3", 0⟩, 0, 0⟩).insert "x_1" ⟨⟨"x_1", 1⟩, 0, 0⟩

/-- A delete of the device that is not known, and a malformed key. -/
theorem entries_independent_iff_known :
    EntriesIndependent changeEnv changeCache
      (changeEntries [⟨"x", 2, false⟩] [⟨"x_1", 3, true⟩] [⟨"u_3", 4, false⟩])
      (onChangeCall changeEnv changeCache [⟨"x", 2, false⟩] [⟨"x_1", 3, true⟩]
        [⟨"u_3", 4, false⟩]) := by
  have hnone : droppedEntries changeEnv
      (changeEntries [⟨"x", 2, false⟩] [⟨"x_1", 3, true⟩] [⟨"u_3", 4, false⟩]) = [] := rfl
  refine (entries_independent_iff not_mem_changeEnv ..).mpr ⟨fun entry hm => ?_, fun entry hm => ?_⟩
  · rw [hnone] at hm
    cases hm
  · rw [hnone] at hm
    cases hm

/-- **An unknown device.**  Its insert stands before the delete of mission 3 of device "u", whose
snapshot stays; so does its update before another one. -/
theorem unknown_device_drops :
    ¬ EntriesIndependent changeEnv changeCache
        (changeEntries [⟨"x_1", 2, false⟩] [⟨"u_3", 3, true⟩] [])
        (onChangeCall changeEnv changeCache [⟨"x_1", 2, false⟩] [⟨"u_3", 3, true⟩] []) ∧
    ¬ EntriesIndependent changeEnv changeCache
        (changeEntries [] [] [⟨"x_1", 2, false⟩, ⟨"u_3", 3, false⟩])
        (onChangeCall changeEnv changeCache [] [] [⟨"x_1", 2, false⟩, ⟨"u_3", 3, false⟩]) := by
  constructor
  · intro h
    cases h.gone (.delete ⟨"u_3", 3, true⟩) (.tail _ (.head _)) "u_3" rfl
  · intro h
    cases h.gone (.update ⟨"u_3", 3, false⟩) (.tail _ (.head _)) "u_3" rfl

end DistributedSched
