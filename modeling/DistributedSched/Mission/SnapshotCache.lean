import DistributedSched.Library.Lru
import DistributedSched.Mission.Snapshots

/-!
# Mission — the cache of snapshots as an LRU map

`cachedSnapshotInfos_` holds up to `MAX_CACHED_ITEM` snapshots.  What the cache is for is an `Lru`
map from keys to snapshots.  Both run side by side, over any operations.

The snapshots that are put into the cache have their times at 0, so the item to make room for is
the first in the order of the map, and room is made also for a key that is there.

* `CacheRefines`: the two hold the same.
* `SnapshotCacheOp.Fits`: when a snapshot is put into a full cache, the first key of the map is the
  one that is to go, or the key itself.
* `snapshot_cache_refines_iff_fits`: the cache never holds too many items; in runs of operations
  that fit it is the `Lru` map, and an operation keeps that exactly when it fits.
-/

namespace DistributedSched

open Std (ExtTreeMap)
open Runs (Reach Reachable)

theorem maxCachedItem_pos : 0 < maxCachedItem := by decide

/-- The `Lru` map of the snapshots. -/
abbrev SnapshotLru := Lru String Version maxCachedItem

inductive SnapshotCacheOp where
  | enqueue (deviceId : String) (missionId : Int) (missionSnapshot : Version)
  | dequeue (getTickCount : Int) (deviceId : String) (missionId : Int)
  | delete (env : SnapshotEnv) (networkId : String)

/-- The first key in the order of `std::map`. -/
def firstKey (cached : Map String Snapshot) : Option String := cached.keys.head?

/-- The cache, and the map that it is to be. -/
structure SnapshotCache where
  cached : Map String Snapshot := ∅
  lru : SnapshotLru := .empty maxCachedItem_pos

namespace SnapshotCacheOp

/-- The cache after the operation; a snapshot is put into it as `GetRemoteMissionSnapshotInfoInner`
builds it. -/
def cached (cached : Map String Snapshot) : SnapshotCacheOp → Map String Snapshot
  | enqueue deviceId missionId missionSnapshot =>
    enqueueCachedSnapshotInfo cached deviceId missionId (convertToSnapshot missionSnapshot)
  | dequeue getTickCount deviceId missionId =>
    (dequeueCachedSnapshotInfo getTickCount cached deviceId missionId).2
  | delete env networkId => deleteCachedSnapshotInfo env cached networkId

/-- The keys that `DeleteCachedSnapshotInfo` looks for; none when the uuid is not known. -/
def deletes (env : SnapshotEnv) (networkId keyInfo : String) : Bool :=
  networkId ≠ "" && env.getUuidByNetworkId networkId ≠ "" &&
    keyInfo.contains (env.getUuidByNetworkId networkId)

/-- The map after the operation. -/
def lru (lru : SnapshotLru) : SnapshotCacheOp → SnapshotLru
  | enqueue deviceId missionId missionSnapshot =>
    if deviceId = "" then lru else lru.enqueue (generateKeyInfo deviceId missionId) missionSnapshot
  | dequeue _ deviceId missionId =>
    if deviceId = "" then lru else (lru.dequeue (generateKeyInfo deviceId missionId)).2
  | delete env networkId => lru.remove (deletes env networkId)

def apply (s : SnapshotCache) (op : SnapshotCacheOp) : Option SnapshotCache :=
  some ⟨op.cached s.cached, op.lru s.lru⟩

/-- The condition on an operation, by the state before it: the first key of a full cache is the
key that is stored, or, when that is new, the one that was stored least recently. -/
def Fits (s : SnapshotCache) : SnapshotCacheOp → Prop
  | enqueue deviceId missionId _ =>
    deviceId ≠ "" → s.cached.size = maxCachedItem →
      firstKey s.cached =
        if s.cached.contains (generateKeyInfo deviceId missionId) then
          some (generateKeyInfo deviceId missionId)
        else s.lru.order.head?
  | _ => True

instance (s : SnapshotCache) : ∀ op : SnapshotCacheOp, Decidable (op.Fits s)
  | enqueue .. => inferInstanceAs (Decidable (_ → _ → _))
  | dequeue .. | delete .. => inferInstanceAs (Decidable True)

end SnapshotCacheOp

/-- The cache holds what the map holds. -/
def CacheRefines (cached : Map String Snapshot) (lru : SnapshotLru) : Prop :=
  ∀ keyInfo : String, cached[keyInfo]? = (lru.value keyInfo).map convertToSnapshot

/-! ### The item to make room for -/

section oldest

variable {cached : Map String Snapshot}

theorem mem_of_firstKey {keyInfo : String} (h : firstKey cached = some keyInfo) :
    keyInfo ∈ cached :=
  ExtTreeMap.mem_keys.mp (List.mem_of_head? h)

theorem firstKey_eq_none (h : firstKey cached = none) : cached = ∅ :=
  ExtTreeMap.keys_eq_nil_iff.mp (List.head?_eq_none_iff.mp h)

/-- Every snapshot of the cache was converted. -/
def Converted (cached : Map String Snapshot) : Prop :=
  ∀ (keyInfo : String) (snapshot : Snapshot), cached[keyInfo]? = some snapshot →
    snapshot = convertToSnapshot snapshot.pixelMap

theorem foldl_olderItem_some (keyInfo : String) :
    ∀ l : List (String × Snapshot), (∀ e ∈ l, e.2.lastAccessTime = 0) →
      l.foldl olderItem (0, some keyInfo) = (0, some keyInfo)
  | [], _ => rfl
  | e :: l, h => by
      have he : olderItem (0, some keyInfo) e = (0, some keyInfo) := by
        rw [olderItem, h e List.mem_cons_self]
        rfl
      rw [List.foldl_cons, he]
      exact foldl_olderItem_some keyInfo l fun e he => h e (List.mem_cons_of_mem _ he)

/-- Among items of one age the first is taken. -/
theorem foldl_olderItem {l : List (String × Snapshot)} (h : ∀ e ∈ l, e.2.lastAccessTime = 0) :
    (l.foldl olderItem (-1, none)).2 = (l.map Prod.fst).head? := by
  cases l with
  | nil => rfl
  | cons e l =>
      have he : olderItem (-1, none) e = (0, some e.1) := by
        rw [olderItem, h e List.mem_cons_self]
        rfl
      rw [List.foldl_cons, he,
        foldl_olderItem_some e.1 l fun e he => h e (List.mem_cons_of_mem _ he)]
      rfl

theorem Converted.eraseOldest_eq (h : Converted cached) :
    eraseOldest cached =
      if cached.size = maxCachedItem then
        match firstKey cached with
        | some keyInfo => cached.erase keyInfo
        | none => cached
      else cached := by
  have htimes : ∀ e ∈ cached.toList, e.2.lastAccessTime = 0 := by
    intro e he
    rw [h e.1 e.2 (ExtTreeMap.mem_toList_iff_getElem?_eq_some.mp he)]
    rfl
  rw [eraseOldest, foldl_olderItem htimes, ExtTreeMap.map_fst_toList_eq_keys]
  rfl

/-- What is left of each key when room is made. -/
theorem Converted.getElem?_eraseOldest (h : Converted cached) (keyInfo : String) :
    (eraseOldest cached)[keyInfo]? =
      if cached.size = maxCachedItem ∧ firstKey cached = some keyInfo then none
      else cached[keyInfo]? := by
  rw [h.eraseOldest_eq]
  split
  · rename_i hfull
    split
    · rename_i first hmin
      rw [ExtTreeMap.getElem?_erase]
      simp only [hfull, hmin, true_and, Option.some.injEq, Std.LawfulEqCmp.compare_eq_iff_eq]
    · rename_i hmin
      simp [hmin]
  · rename_i hfull
    rw [if_neg fun hc => hfull hc.1]

theorem Converted.enqueue_eq (h : Converted cached) {deviceId : String} (hd : deviceId ≠ "")
    (missionId : Int) (missionSnapshot : Version) :
    enqueueCachedSnapshotInfo cached deviceId missionId (convertToSnapshot missionSnapshot) =
      (eraseOldest cached).insert (generateKeyInfo deviceId missionId)
        (convertToSnapshot missionSnapshot) := by
  rw [enqueueCachedSnapshotInfo, if_neg hd]
  dsimp only
  rw [if_neg]
  cases hk : cached[generateKeyInfo deviceId missionId]? with
  | none => exact Bool.false_ne_true
  | some old =>
      rw [h _ old hk]
      exact Bool.false_ne_true

theorem dequeue_eq {deviceId : String} (hd : deviceId ≠ "") (getTickCount : Int) (missionId : Int) :
    dequeueCachedSnapshotInfo getTickCount cached deviceId missionId =
      (cached[generateKeyInfo deviceId missionId]?.map fun snapshot =>
        { snapshot with lastAccessTime := getTickCount },
        cached.erase (generateKeyInfo deviceId missionId)) := by
  rw [dequeueCachedSnapshotInfo, if_neg hd]
  dsimp only
  split
  · rename_i snapshot hk
    rw [hk]
    rfl
  · rename_i hk
    rw [hk, ExtTreeMap.erase_eq_self hk]
    rfl

theorem Converted.op (h : Converted cached) (op : SnapshotCacheOp) :
    Converted (op.cached cached) := by
  intro keyInfo snapshot hs
  cases op with
  | enqueue deviceId missionId missionSnapshot =>
      obtain hold | ⟨-, -, rfl⟩ := enqueue_getElem? hs
      · exact h keyInfo snapshot hold
      · rfl
  | dequeue getTickCount deviceId missionId => exact h keyInfo snapshot (dequeue_getElem? hs).1
  | delete env networkId => exact h keyInfo snapshot (deleteCached_getElem? hs)

/-- **The cache never holds too many items.** -/
theorem Converted.size_op_le (h : Converted cached) (hsize : cached.size ≤ maxCachedItem)
    (op : SnapshotCacheOp) : (op.cached cached).size ≤ maxCachedItem := by
  cases op with
  | enqueue deviceId missionId missionSnapshot =>
      by_cases hd : deviceId = ""
      · simp only [SnapshotCacheOp.cached, enqueueCachedSnapshotInfo, if_pos hd]
        exact hsize
      have hroom : (eraseOldest cached).size < maxCachedItem := by
        rw [h.eraseOldest_eq]
        split
        · rename_i hfull
          split
          · rename_i first hmin
            have hmem := ExtTreeMap.mem_iff_contains.mp (mem_of_firstKey hmin)
            have hpos : 0 < maxCachedItem := by decide
            rw [ExtTreeMap.size_erase, if_pos hmem]
            omega
          · rename_i hmin
            rw [firstKey_eq_none hmin] at hfull
            exact absurd hfull (by decide)
        · omega
      simp only [SnapshotCacheOp.cached]
      rw [h.enqueue_eq hd]
      exact Nat.le_trans ExtTreeMap.size_insert_le hroom
  | dequeue getTickCount deviceId missionId =>
      by_cases hd : deviceId = ""
      · simp only [SnapshotCacheOp.cached, dequeueCachedSnapshotInfo, if_pos hd]
        exact hsize
      · simp only [SnapshotCacheOp.cached]
        rw [dequeue_eq hd]
        exact Nat.le_trans ExtTreeMap.size_erase_le hsize
  | delete env networkId =>
      simp only [SnapshotCacheOp.cached, deleteCachedSnapshotInfo]
      split
      · exact hsize
      split
      · exact hsize
      · exact Nat.le_trans ExtTreeMap.size_filter_le_size hsize

end oldest

/-! ### The cache and the map -/

section refines

variable {cached : Map String Snapshot} {lru : SnapshotLru}

theorem cacheRefines_init : CacheRefines ∅ (.empty maxCachedItem_pos) :=
  fun keyInfo => by simp [Lru.empty]

theorem CacheRefines.converted (h : CacheRefines cached lru) : Converted cached := by
  intro keyInfo snapshot hs
  rw [h keyInfo] at hs
  obtain ⟨version, -, rfl⟩ := Option.map_eq_some_iff.mp hs
  rfl

theorem CacheRefines.mem_iff (h : CacheRefines cached lru) (keyInfo : String) :
    keyInfo ∈ cached ↔ keyInfo ∈ lru.order := by
  rw [lru.mem_order, ← ExtTreeMap.isSome_getElem?_iff_mem, h keyInfo, Option.isSome_map,
    Option.isSome_iff_ne_none]

theorem CacheRefines.size_eq (h : CacheRefines cached lru) :
    cached.size = lru.order.length := by
  have hperm : cached.keys.Perm lru.order :=
    (List.perm_ext_iff_of_nodup ExtTreeMap.nodup_keys lru.nodup).mpr fun keyInfo => by
      rw [ExtTreeMap.mem_keys, h.mem_iff]
  rw [← ExtTreeMap.length_keys, hperm.length_eq]

theorem CacheRefines.ne_none_iff (h : CacheRefines cached lru) (keyInfo : String) :
    cached[keyInfo]? ≠ none ↔ lru.value keyInfo ≠ none := by
  rw [h keyInfo, ne_eq, Option.map_eq_none_iff]

/-- A snapshot that is put in: every other key keeps what it has, but the one that goes, which is
to be the same on both sides. -/
theorem CacheRefines.enqueue_iff (h : CacheRefines cached lru) {deviceId : String}
    (hd : deviceId ≠ "") (missionId : Int) (missionSnapshot : Version) :
    CacheRefines
        (enqueueCachedSnapshotInfo cached deviceId missionId (convertToSnapshot missionSnapshot))
        (lru.enqueue (generateKeyInfo deviceId missionId) missionSnapshot) ↔
      ∀ keyInfo, keyInfo ≠ generateKeyInfo deviceId missionId → cached[keyInfo]? ≠ none →
        (cached.size = maxCachedItem ∧ firstKey cached = some keyInfo ↔
          lru.evicted (generateKeyInfo deviceId missionId) = some keyInfo) := by
  rw [h.converted.enqueue_eq hd]
  generalize generateKeyInfo deviceId missionId = key
  have hcached : ∀ keyInfo : String, keyInfo ≠ key →
      ((eraseOldest cached).insert key (convertToSnapshot missionSnapshot))[keyInfo]? =
        if cached.size = maxCachedItem ∧ firstKey cached = some keyInfo then none
        else cached[keyInfo]? := by
    intro keyInfo hne
    rw [ExtTreeMap.getElem?_insert_of_ne hne.symm, h.converted.getElem?_eraseOldest]
  have hlru : ∀ keyInfo : String, keyInfo ≠ key →
      ((lru.enqueue key missionSnapshot).value keyInfo).map convertToSnapshot =
        if lru.evicted key = some keyInfo then none else cached[keyInfo]? := by
    intro keyInfo hne
    rw [lru.value_enqueue_of_ne hne, h keyInfo]
    split <;> rfl
  constructor
  · intro href keyInfo hne hold
    have heq := href keyInfo
    rw [hcached keyInfo hne, hlru keyInfo hne] at heq
    constructor
    · intro hgoes
      rw [if_pos hgoes] at heq
      by_contra hstays
      rw [if_neg hstays] at heq
      exact hold heq.symm
    · intro hgoes
      rw [if_pos hgoes] at heq
      by_contra hstays
      rw [if_neg hstays] at heq
      exact hold heq
  · intro hsame keyInfo
    by_cases hne : keyInfo = key
    · subst hne
      rw [ExtTreeMap.getElem?_insert_self, lru.value_enqueue_self]
      rfl
    · rw [hcached keyInfo hne, hlru keyInfo hne]
      by_cases hold : cached[keyInfo]? = none
      · simp only [hold, ite_self]
      · simp only [hsame keyInfo hne hold]

/-- **Room is made in the right place exactly when the first key of a full cache is the one that
is stored, or the least recently stored one.** -/
theorem CacheRefines.enqueue_fits (h : CacheRefines cached lru) {deviceId : String}
    (hd : deviceId ≠ "") (missionId : Int) (missionSnapshot : Version) :
    CacheRefines
        (enqueueCachedSnapshotInfo cached deviceId missionId (convertToSnapshot missionSnapshot))
        (lru.enqueue (generateKeyInfo deviceId missionId) missionSnapshot) ↔
      (cached.size = maxCachedItem → firstKey cached =
        if cached.contains (generateKeyInfo deviceId missionId) then
          some (generateKeyInfo deviceId missionId)
        else lru.order.head?) := by
  rw [h.enqueue_iff hd]
  generalize generateKeyInfo deviceId missionId = key
  have hsize := h.size_eq
  by_cases hfull : cached.size = maxCachedItem
  case neg =>
    -- nothing goes
    rw [Lru.evicted_of_lt (hsize ▸ hfull)]
    simp [hfull]
  obtain ⟨first, hfirst⟩ : ∃ first, firstKey cached = some first := by
    cases hmin : firstKey cached with
    | some first => exact ⟨first, rfl⟩
    | none =>
        rw [firstKey_eq_none hmin] at hfull
        exact absurd hfull (by decide)
  have hmem : cached[first]? ≠ none :=
    ExtTreeMap.contains_iff_ne_none.mp (mem_of_firstKey hfirst)
  simp only [hfull, hfirst, true_and, true_implies, Option.some.injEq]
  cases hk : cached.contains key with
  | true =>
      -- the key is there, so no other key is to go
      have hvalue : lru.value key ≠ none := by
        rw [← h.ne_none_iff, ← ExtTreeMap.contains_iff_ne_none]
        exact hk
      rw [Lru.evicted_of_mem hvalue, if_pos rfl, Option.some.injEq]
      constructor
      · intro hsame
        by_contra hne
        cases (hsame first hne hmem).mp rfl
      · rintro rfl keyInfo hne -
        exact iff_of_false (fun he => hne he.symm) fun he => nomatch he
  | false =>
      have hvalue : lru.value key = none := by
        by_contra hc
        rw [← ne_eq, ← h.ne_none_iff, ← ExtTreeMap.contains_iff_ne_none, hk] at hc
        cases hc
      rw [Lru.evicted_of_full hvalue (hsize ▸ hfull), if_neg Bool.false_ne_true]
      constructor
      · intro hsame
        have hne : first ≠ key := by
          rintro rfl
          exact (h.ne_none_iff first).mp hmem hvalue
        exact ((hsame first hne hmem).mp rfl).symm
      · intro heq keyInfo _ _
        rw [← heq, Option.some.injEq]

theorem CacheRefines.dequeue (h : CacheRefines cached lru) {deviceId : String} (hd : deviceId ≠ "")
    (getTickCount : Int) (missionId : Int) :
    (dequeueCachedSnapshotInfo getTickCount cached deviceId missionId).1.map
        convertToMissionSnapshot = (lru.dequeue (generateKeyInfo deviceId missionId)).1 ∧
      CacheRefines (dequeueCachedSnapshotInfo getTickCount cached deviceId missionId).2
        (lru.dequeue (generateKeyInfo deviceId missionId)).2 := by
  rw [dequeue_eq hd]
  constructor
  · rw [h, Lru.dequeue]
    cases lru.value (generateKeyInfo deviceId missionId) <;> rfl
  · intro keyInfo
    rw [ExtTreeMap.getElem?_erase, h keyInfo]
    simp only [Lru.dequeue, Lru.remove, Std.LawfulEqCmp.compare_eq_iff_eq, decide_eq_true_eq,
      eq_comm (a := keyInfo)]
    split <;> rfl

theorem CacheRefines.delete (h : CacheRefines cached lru) (env : SnapshotEnv) (networkId : String) :
    CacheRefines (deleteCachedSnapshotInfo env cached networkId)
      (lru.remove (SnapshotCacheOp.deletes env networkId)) := by
  intro keyInfo
  simp only [deleteCachedSnapshotInfo, Lru.remove, SnapshotCacheOp.deletes]
  by_cases hn : networkId = ""
  · simp [hn, h keyInfo]
  by_cases hu : env.getUuidByNetworkId networkId = ""
  · simp [hn, hu, h keyInfo]
  rw [if_neg hn, if_neg hu, ExtTreeMap.getElem?_filter', h keyInfo]
  by_cases hc : keyInfo.contains (env.getUuidByNetworkId networkId) = true
  · simp [hn, hu, hc]
  · cases lru.value keyInfo <;> simp [hc]

end refines

/-- **An operation keeps the two together exactly when it fits.** -/
theorem CacheRefines.op_iff {s : SnapshotCache} (h : CacheRefines s.cached s.lru)
    (op : SnapshotCacheOp) :
    CacheRefines (op.cached s.cached) (op.lru s.lru) ↔ op.Fits s := by
  cases op with
  | enqueue deviceId missionId missionSnapshot =>
      by_cases hd : deviceId = ""
      · refine iff_of_true ?_ fun hne => absurd hd hne
        simp only [SnapshotCacheOp.cached, SnapshotCacheOp.lru, enqueueCachedSnapshotInfo,
          if_pos hd]
        exact h
      · simp only [SnapshotCacheOp.cached, SnapshotCacheOp.lru, SnapshotCacheOp.Fits, if_neg hd,
          h.enqueue_fits hd]
        exact ⟨fun hfits _ => hfits, fun hfits => hfits hd⟩
  | dequeue getTickCount deviceId missionId =>
      refine iff_of_true ?_ trivial
      by_cases hd : deviceId = ""
      · simp only [SnapshotCacheOp.cached, SnapshotCacheOp.lru, dequeueCachedSnapshotInfo,
          if_pos hd]
        exact h
      · simp only [SnapshotCacheOp.cached, SnapshotCacheOp.lru, if_neg hd]
        exact (h.dequeue hd getTickCount missionId).2
  | delete env networkId => exact iff_of_true (h.delete env networkId) trivial

/-! ### Every run -/

/-- **The cache as a bounded LRU map.**  In every run the cache holds no more than
`MAX_CACHED_ITEM` snapshots.  In a run whose operations fit it holds what the map holds, a request
takes the snapshot of the map out of it, and an operation keeps that exactly when it fits. -/
theorem snapshot_cache_refines_iff_fits (s : SnapshotCache) :
    (Reachable SnapshotCacheOp.apply {} s → s.cached.size ≤ maxCachedItem) ∧
    (Reach SnapshotCacheOp.apply (fun s op => op.Fits s) {} s →
      CacheRefines s.cached s.lru ∧
      (∀ getTickCount deviceId missionId, deviceId ≠ "" →
        (dequeueCachedSnapshotInfo getTickCount s.cached deviceId missionId).1.map
          convertToMissionSnapshot = s.lru.value (generateKeyInfo deviceId missionId)) ∧
      ∀ op : SnapshotCacheOp, CacheRefines (op.cached s.cached) (op.lru s.lru) ↔ op.Fits s) := by
  constructor
  · intro hr
    have hinv : Converted s.cached ∧ s.cached.size ≤ maxCachedItem := by
      refine hr.invariant (P := fun s => Converted s.cached ∧ s.cached.size ≤ maxCachedItem)
        ⟨cacheRefines_init.converted, Nat.zero_le _⟩ fun s op s' ih _ hs => ?_
      cases hs
      exact ⟨ih.1.op op, ih.1.size_op_le ih.2 op⟩
    exact hinv.2
  · intro hr
    have href : CacheRefines s.cached s.lru := by
      refine hr.invariant (P := fun s => CacheRefines s.cached s.lru) cacheRefines_init
        fun s op s' ih hfits hs => ?_
      cases hs
      exact (ih.op_iff op).mpr hfits
    exact ⟨href, fun tick deviceId missionId hd => (href.dequeue hd tick missionId).1, href.op_iff⟩

/-- The snapshots of missions of device "u", one after another. -/
def enqueueAll (missionIds : List Nat) : List SnapshotCacheOp :=
  missionIds.map fun (missionId : Nat) => .enqueue "u" missionId ⟨"", missionId⟩

/-- Ten missions in the order of their keys, and one more: the first goes. -/
theorem snapshot_cache_refines_iff_fits_full : ∃ s : SnapshotCache,
    s.cached.size = maxCachedItem ∧ s.cached["u_0"]? = none ∧ CacheRefines s.cached s.lru := by
  have hrun : ∃ s, Runs.exec (fun s op => if SnapshotCacheOp.Fits s op then op.apply s else none) {}
      (enqueueAll (List.range 10) ++ [.enqueue "v" 0 ⟨"", 10⟩]) = some s ∧
      s.cached.size = maxCachedItem ∧ s.cached["u_0"]? = none := ⟨_, rfl, rfl, rfl⟩
  obtain ⟨s, hrun, hsize, hgone⟩ := hrun
  exact ⟨s, hsize, hgone, ((snapshot_cache_refines_iff_fits s).2 (Reach.of_exec_checked hrun)).1⟩

/-- **The wrong snapshot goes.**  Ten missions against the order of their keys, and one more: the
snapshot that was stored last before it goes.  Ten missions, and one of them again: another one
goes, although the key was there. -/
theorem newest_goes :
    (∃ s, Runs.exec SnapshotCacheOp.apply {}
        (enqueueAll (List.range 10).reverse ++ [.enqueue "v" 0 ⟨"", 10⟩]) = some s ∧
      s.cached["u_0"]? = none ∧ s.lru.value "u_0" = some ⟨"", 0⟩ ∧
        ¬ CacheRefines s.cached s.lru) ∧
    ∃ s, Runs.exec SnapshotCacheOp.apply {}
        (enqueueAll (List.range 10) ++ [.enqueue "u" 9 ⟨"", 10⟩]) = some s ∧
      s.cached["u_0"]? = none ∧ s.lru.value "u_0" = some ⟨"", 0⟩ ∧
        ¬ CacheRefines s.cached s.lru := by
  have hlost : ∀ {s : SnapshotCache}, s.cached["u_0"]? = none →
      s.lru.value "u_0" = some ⟨"", 0⟩ → ¬ CacheRefines s.cached s.lru := by
    intro s hc hl href
    exact (href.ne_none_iff "u_0").mpr (hl ▸ Option.some_ne_none _) hc
  exact ⟨⟨_, rfl, rfl, rfl, hlost rfl rfl⟩, _, rfl, rfl, rfl, hlost rfl rfl⟩

end DistributedSched
