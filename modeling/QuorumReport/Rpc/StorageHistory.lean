import QuorumReport.Rpc.Types

/-!
# `RPCAPIs.GetStorageHistory`

`GetStorageHistory` walks the blocks `startBlockNumber, …, endBlockNumber` with a `uint64`
counter. At each block it fetches the contract's raw storage, skips the block when the
store answers `nil`, and otherwise decodes the storage with `parseRawStorage` and appends a
`ParsedState`. The first failure of the store or of the decoder is returned at once, with
no partial result.

`storageLoop` is the Go loop, run for a bounded number of iterations (`fuel`), and
`HistoryReturns` says that the method returns: some amount of fuel is enough. The loop also
reports the blocks whose storage it fetched, which is how the calls to `GetStorage` are
counted. `ReportingRequestTemplate`, the decoded storage and `parseRawStorage` are not
among the repository's files: they are the parameters `Template`, `Storage` and
`parseRawStorage`, an arbitrary function that may fail.

Over it, `traverse` is the abstract history: an in-order traversal of an explicit list of
blocks. As long as `endBlockNumber + 1` does not overflow, the loop returns exactly what
the traversal of `blockRange startBlockNumber endBlockNumber` gives
(`storageLoop_eq_traverse`, `storageLoop_of_length_lt`). At `endBlockNumber = 2 ^ 64 - 1`
the guard `i <= endBlockNumber` always holds and `i++` wraps to `0`, so the loop only
stops at a failure (`storageLoop_of_max`); the least failing block of the range is still met
before the counter wraps (`storageLoop_of_least_failsAt`).

## Main results

* `getStorageHistory_traversal`: the result fails with the error of the least failing block
  of the range, whatever the end block, or lists one entry per block with non-`nil` storage,
  in increasing order;
* `getStorageHistory_fetches`: the method returns, and fetches the blocks of the range in
  order up to the first failure;
* `getStorageHistory_wraps`: at `endBlockNumber = 2 ^ 64 - 1` a store that never fails keeps
  the method running forever, fetching block `0` after block `2 ^ 64 - 1`.
-/

namespace QuorumReport.Rpc

/-- `ParsedState`: the decoded storage of one block. -/
structure ParsedState (Storage : Type) where
  /-- The block the storage was read at. -/
  blockNumber : UInt64
  /-- The storage, as `parseRawStorage` decoded it. -/
  historicStorage : Storage
deriving DecidableEq

/-- `ReportingResponseTemplate`: the answer of `GetStorageHistory`. -/
structure ReportingResponseTemplate (Storage : Type) where
  /-- The contract asked about. -/
  address : Address
  /-- The decoded storage of each reported block. -/
  historicState : List (ParsedState Storage)
deriving DecidableEq

/-- The blocks `startBlockNumber, startBlockNumber + 1, …, endBlockNumber`, empty when
`startBlockNumber > endBlockNumber`. -/
def blockRange (startBlockNumber endBlockNumber : UInt64) : List UInt64 :=
  (List.range' startBlockNumber.toNat (endBlockNumber.toNat + 1 - startBlockNumber.toNat)).map
    UInt64.ofNat

/-- A range that starts past its end is empty. -/
theorem blockRange_of_lt {s e : UInt64} (h : e < s) : blockRange s e = [] := by
  rw [uint64_lt_iff] at h
  simp [blockRange, show e.toNat + 1 - s.toNat = 0 by omega]

/-- A range that starts at or before its end, at a block below `2 ^ 64 - 1`, starts with its
first block. -/
theorem blockRange_eq_cons {s e : UInt64} (h : s ≤ e) (hs : s.toNat + 1 < UInt64.size) :
    blockRange s e = s :: blockRange (s + 1) e := by
  rw [uint64_le_iff] at h
  rw [blockRange, blockRange, uint64_toNat_add_one hs, show e.toNat + 1 - s.toNat =
    e.toNat + 1 - (s.toNat + 1) + 1 by omega, List.range'_succ, List.map_cons, uint64_ofNat_toNat]

/-- A range that starts at or before its end, an end below `2 ^ 64 - 1`, starts with its
first block. -/
theorem blockRange_of_le {s e : UInt64} (h : s ≤ e) (hend : e.toNat + 1 < UInt64.size) :
    blockRange s e = s :: blockRange (s + 1) e :=
  blockRange_eq_cons h (by rw [uint64_le_iff] at h; omega)

/-- The range from a block to itself is that block. -/
theorem blockRange_self (s : UInt64) : blockRange s s = [s] := by
  simp [blockRange, uint64_ofNat_toNat]

/-- The blocks of a range are the `uint64`s between its ends. -/
theorem mem_blockRange {s e i : UInt64} : i ∈ blockRange s e ↔ s ≤ i ∧ i ≤ e := by
  simp only [blockRange, List.mem_map, List.mem_range'_1, uint64_le_iff]
  constructor
  · rintro ⟨n, hn, rfl⟩
    rw [UInt64.toNat_ofNat_of_lt (by have := uint64_toNat_lt e; omega)]
    omega
  · intro h
    exact ⟨i.toNat, by omega, uint64_ofNat_toNat i⟩

/-- A range is increasing. -/
theorem blockRange_sorted (s e : UInt64) : (blockRange s e).Sorted (· < ·) := by
  have he := uint64_toNat_lt e
  refine List.pairwise_map.2 ((List.pairwise_lt_range' _ _).imp_of_mem fun ha hb hab => ?_)
  rw [List.mem_range'_1] at ha hb
  rwa [uint64_lt_iff, UInt64.toNat_ofNat_of_lt (by omega), UInt64.toNat_ofNat_of_lt (by omega)]

/-- A store that records no storage at any block. -/
def nilDatabase : Database where
  getStorage _ _ := .ok none
  readTransaction _ := .error "not found"
  getContractABI _ := .ok ""

section GetStorageHistory

variable {Template Storage : Type} (db : Database)
  (parseRawStorage : StorageMap → Template → Except Error Storage)
  (address : Address) (template : Template)

/-- The body of the block loop at block `i`: fetch the raw storage, skip the block (`none`)
when it is `nil`, and otherwise decode it into the entry of block `i`. -/
def storageAt (i : UInt64) : Except Error (Option (ParsedState Storage)) :=
  match db.getStorage address i with
  | .error err => .error err
  | .ok none => .ok none
  | .ok (some rawStorage) =>
    match parseRawStorage rawStorage template with
    | .error err => .error err
    | .ok historicStorage => .ok (some ⟨i, historicStorage⟩)

/-- `GetStorage` fails at block `i` with `err`, or `parseRawStorage` does on the block's
non-`nil` storage. -/
def FailsAt (i : UInt64) (err : Error) : Prop :=
  db.getStorage address i = .error err ∨
    ∃ rawStorage, db.getStorage address i = .ok (some rawStorage) ∧
      parseRawStorage rawStorage template = .error err

/-- The loop body fails exactly where `FailsAt` says. -/
theorem storageAt_eq_error_iff {i : UInt64} {err : Error} :
    storageAt db parseRawStorage address template i = .error err ↔
      FailsAt db parseRawStorage address template i err := by
  unfold storageAt FailsAt
  cases db.getStorage address i with
  | error e => simp
  | ok raw =>
    cases raw with
    | none => simp
    | some raw => cases hp : parseRawStorage raw template <;> simp [hp]

/-- At a block that fails with no error, the loop body succeeds. -/
theorem storageAt_eq_ok_of_not_failsAt {i : UInt64}
    (h : ∀ err, ¬ FailsAt db parseRawStorage address template i err) :
    ∃ entry, storageAt db parseRawStorage address template i = .ok entry := by
  cases hv : storageAt db parseRawStorage address template i with
  | error err => exact absurd ((storageAt_eq_error_iff ..).1 hv) (h err)
  | ok entry => exact ⟨entry, rfl⟩

/-- The loop body emits an entry exactly for a block with non-`nil` storage that decodes. -/
theorem storageAt_eq_some_iff {i : UInt64} {st : ParsedState Storage} :
    storageAt db parseRawStorage address template i = .ok (some st) ↔
      st.blockNumber = i ∧ ∃ rawStorage, db.getStorage address i = .ok (some rawStorage) ∧
        parseRawStorage rawStorage template = .ok st.historicStorage := by
  unfold storageAt
  cases db.getStorage address i with
  | error e => simp
  | ok raw =>
    cases raw with
    | none => simp
    | some raw =>
      cases st
      cases hp : parseRawStorage raw template <;> simp [hp, eq_comm, and_comm]

variable (endBlockNumber : UInt64)

/-- The loop `for i := startBlockNumber; i <= endBlockNumber; i++`, from block `i` with the
states collected so far, run for at most `fuel` iterations. It returns the blocks whose
storage it fetched, in order, and the method's result, `none` while the loop still runs. -/
def storageLoop : Nat → UInt64 → List (ParsedState Storage) →
    List UInt64 × Option (Except Error (ReportingResponseTemplate Storage))
  | 0, _, _ => ([], none)
  | fuel + 1, i, historicStates =>
    if i ≤ endBlockNumber then
      match storageAt db parseRawStorage address template i with
      | .error err => ([i], some (.error err))
      | .ok entry =>
        let rest := storageLoop fuel (i + 1) (historicStates ++ entry.toList)
        (i :: rest.1, rest.2)
    else ([], some (.ok ⟨address, historicStates⟩))

/-- `GetStorageHistory(address, startBlockNumber, endBlockNumber, template)` returns `r`,
having fetched the storage of the blocks `fetched`, in this order. -/
def HistoryReturns (startBlockNumber : UInt64) (fetched : List UInt64)
    (r : Except Error (ReportingResponseTemplate Storage)) : Prop :=
  ∃ fuel, storageLoop db parseRawStorage address template endBlockNumber fuel startBlockNumber [] =
    (fetched, some r)

/-- The abstract history over an explicit list of blocks: visit them in order, stop at the
first failure, and keep the entries of the blocks with non-`nil` storage. It returns the
blocks visited and the entries or the failure. -/
def traverse : List UInt64 → List UInt64 × Except Error (List (ParsedState Storage))
  | [] => ([], .ok [])
  | i :: is =>
    match storageAt db parseRawStorage address template i with
    | .error err => ([i], .error err)
    | .ok entry =>
      let rest := traverse is
      (i :: rest.1, (entry.toList ++ ·) <$> rest.2)

/-- The entry block `i` contributes to a traversal that does not fail. -/
def entryAt (i : UInt64) : Option (ParsedState Storage) :=
  match storageAt db parseRawStorage address template i with
  | .ok entry => entry
  | .error _ => none

/-- A traversal with no failing block visits every block and keeps the entry of each. -/
theorem traverse_of_forall_not_failsAt {bs : List UInt64}
    (hok : ∀ i ∈ bs, ∀ err, ¬ FailsAt db parseRawStorage address template i err) :
    traverse db parseRawStorage address template bs =
      (bs, .ok (bs.filterMap (entryAt db parseRawStorage address template))) := by
  induction bs with
  | nil => rfl
  | cons i is ih =>
    obtain ⟨entry, hv⟩ := storageAt_eq_ok_of_not_failsAt db parseRawStorage address template
      (hok i (List.mem_cons_self _ _))
    have hrest := ih fun j hj => hok j (List.mem_cons_of_mem _ hj)
    simp only [traverse, hv, hrest, List.filterMap_cons, entryAt]
    cases entry <;> rfl

/-- The answer built from the states collected before the loop resumes and the traversal of
the rest of the range. -/
theorem map_response_append (historicStates entries : List (ParsedState Storage))
    (rest : Except Error (List (ParsedState Storage))) :
    (fun l => (⟨address, historicStates ++ l⟩ : ReportingResponseTemplate Storage)) <$>
        ((entries ++ ·) <$> rest) =
      (fun l => ⟨address, historicStates ++ entries ++ l⟩) <$> rest := by
  cases rest <;> simp [Functor.map, Except.map, List.append_assoc]

/-- Whenever the loop returns, it has fetched the blocks that the traversal of the rest of the
range visits, and returns the states collected so far followed by the traversal's entries,
or the traversal's failure. -/
theorem storageLoop_eq_traverse (hend : endBlockNumber.toNat + 1 < UInt64.size) {fuel : Nat}
    {i : UInt64} {historicStates : List (ParsedState Storage)} {fetched : List UInt64}
    {r : Except Error (ReportingResponseTemplate Storage)}
    (h : storageLoop db parseRawStorage address template endBlockNumber fuel i historicStates =
      (fetched, some r)) :
    fetched = (traverse db parseRawStorage address template (blockRange i endBlockNumber)).1 ∧
      r = (fun l => ⟨address, historicStates ++ l⟩) <$>
        (traverse db parseRawStorage address template (blockRange i endBlockNumber)).2 := by
  induction fuel generalizing i historicStates fetched r with
  | zero => simp [storageLoop] at h
  | succ fuel ih =>
    unfold storageLoop at h
    split_ifs at h with hi
    · rw [blockRange_of_le hi hend]
      cases hv : storageAt db parseRawStorage address template i with
      | error err =>
        simp only [hv, Prod.mk.injEq, Option.some.injEq] at h
        obtain ⟨rfl, rfl⟩ := h
        simp [traverse, hv, Functor.map, Except.map]
      | ok entry =>
        simp only [hv, Prod.mk.injEq] at h
        obtain ⟨rfl, hr⟩ := h
        obtain ⟨h1, h2⟩ := ih (Prod.ext rfl hr)
        simp only [traverse, hv, map_response_append]
        exact ⟨congrArg (i :: ·) h1, h2⟩
    · rw [blockRange_of_lt (UInt64.not_le.1 hi)]
      simp only [Prod.mk.injEq, Option.some.injEq] at h
      obtain ⟨rfl, rfl⟩ := h
      simp [traverse, Functor.map, Except.map]

/-- With more fuel than the rest of the range has blocks, the loop returns what the
traversal of the rest of the range gives. -/
theorem storageLoop_of_length_lt (hend : endBlockNumber.toNat + 1 < UInt64.size) {fuel : Nat}
    {i : UInt64} (historicStates : List (ParsedState Storage))
    (hfuel : (blockRange i endBlockNumber).length < fuel) :
    storageLoop db parseRawStorage address template endBlockNumber fuel i historicStates =
      ((traverse db parseRawStorage address template (blockRange i endBlockNumber)).1,
        some ((fun l => ⟨address, historicStates ++ l⟩) <$>
          (traverse db parseRawStorage address template (blockRange i endBlockNumber)).2)) := by
  induction fuel generalizing i historicStates with
  | zero => omega
  | succ fuel ih =>
    unfold storageLoop
    split_ifs with hi
    · rw [blockRange_of_le hi hend] at hfuel ⊢
      cases hv : storageAt db parseRawStorage address template i with
      | error err => simp only [traverse, hv]; rfl
      | ok entry =>
        simp only [traverse, hv, map_response_append,
          @ih (i + 1) (historicStates ++ entry.toList)
            (by simp only [List.length_cons] at hfuel; omega)]
    · rw [blockRange_of_lt (UInt64.not_le.1 hi)]
      simp [traverse, Functor.map, Except.map]

/-- As long as `endBlockNumber + 1` does not overflow, `GetStorageHistory` returns `r` after
fetching `fetched` exactly when these are what the traversal of the range gives. -/
theorem historyReturns_iff (hend : endBlockNumber.toNat + 1 < UInt64.size)
    {startBlockNumber : UInt64} {fetched : List UInt64}
    {r : Except Error (ReportingResponseTemplate Storage)} :
    HistoryReturns db parseRawStorage address template endBlockNumber startBlockNumber fetched r ↔
      fetched = (traverse db parseRawStorage address template
          (blockRange startBlockNumber endBlockNumber)).1 ∧
        r = (fun l => ⟨address, l⟩) <$> (traverse db parseRawStorage address template
          (blockRange startBlockNumber endBlockNumber)).2 := by
  constructor
  · rintro ⟨fuel, h⟩
    simpa using storageLoop_eq_traverse db parseRawStorage address template endBlockNumber hend h
  · rintro ⟨rfl, rfl⟩
    refine ⟨(blockRange startBlockNumber endBlockNumber).length + 1, ?_⟩
    rw [storageLoop_of_length_lt db parseRawStorage address template endBlockNumber hend []
      (Nat.lt_succ_self _)]
    simp

/-- `entryAt` gives the entry a block's loop body emits. -/
theorem entryAt_eq_some_iff {i : UInt64} {st : ParsedState Storage} :
    entryAt db parseRawStorage address template i = some st ↔
      storageAt db parseRawStorage address template i = .ok (some st) := by
  unfold entryAt
  cases storageAt db parseRawStorage address template i <;> simp

/-- The entries kept from a list of blocks are those of its blocks with non-`nil` storage
that decodes. -/
theorem mem_filterMap_entryAt {bs : List UInt64} {st : ParsedState Storage} :
    st ∈ bs.filterMap (entryAt db parseRawStorage address template) ↔
      st.blockNumber ∈ bs ∧ ∃ rawStorage, db.getStorage address st.blockNumber = .ok (some rawStorage) ∧
        parseRawStorage rawStorage template = .ok st.historicStorage := by
  simp only [List.mem_filterMap, entryAt_eq_some_iff, storageAt_eq_some_iff]
  constructor
  · rintro ⟨i, hi, rfl, h⟩
    exact ⟨hi, h⟩
  · rintro ⟨hi, h⟩
    exact ⟨_, hi, rfl, h⟩

/-- The entries kept from an increasing list of blocks have increasing block numbers. -/
theorem sorted_filterMap_entryAt {bs : List UInt64} (hs : bs.Sorted (· < ·)) :
    ((bs.filterMap (entryAt db parseRawStorage address template)).map (·.blockNumber)).Sorted
      (· < ·) := by
  have hb : ∀ i st, st ∈ entryAt db parseRawStorage address template i → st.blockNumber = i :=
    fun i st h => ((storageAt_eq_some_iff ..).1 ((entryAt_eq_some_iff ..).1 h)).1
  refine List.pairwise_map.2 (List.Pairwise.filterMap _ (fun a b hab sa ha sb hb' => ?_) hs)
  rw [hb _ _ ha, hb _ _ hb']
  exact hab

/-- From a block `s` at or before the least failing block `i` of the range, the loop, when it
returns, has fetched the blocks `s` to `i` and fails with the error of `i`. No bound on the
end block is needed: the loop meets `i` before `i++` could wrap. -/
theorem storageLoop_of_least_failsAt {i : UInt64} {err : Error}
    (hf : FailsAt db parseRawStorage address template i err) (hie : i ≤ endBlockNumber)
    {fuel : Nat} {s : UInt64} {historicStates : List (ParsedState Storage)}
    {fetched : List UInt64} {r : Except Error (ReportingResponseTemplate Storage)} (hsi : s ≤ i)
    (hmin : ∀ j, s ≤ j → j < i → ∀ err', ¬ FailsAt db parseRawStorage address template j err')
    (h : storageLoop db parseRawStorage address template endBlockNumber fuel s historicStates =
      (fetched, some r)) :
    r = .error err ∧ fetched = blockRange s i := by
  induction fuel generalizing s historicStates fetched with
  | zero => simp [storageLoop] at h
  | succ fuel ih =>
    rw [uint64_le_iff] at hsi hie
    rw [storageLoop, if_pos (uint64_le_iff.2 (by omega))] at h
    by_cases hs : s = i
    · subst hs
      rw [(storageAt_eq_error_iff ..).2 hf, Prod.mk.injEq, Option.some.injEq] at h
      exact ⟨h.2.symm, h.1.symm.trans (blockRange_self s).symm⟩
    · have hlt : s.toNat < i.toNat := lt_of_le_of_ne hsi fun h' => hs (UInt64.toNat.inj h')
      have hs1 : s.toNat + 1 < UInt64.size := by have := uint64_toNat_lt i; omega
      obtain ⟨entry, hv⟩ := storageAt_eq_ok_of_not_failsAt db parseRawStorage address template
        (hmin s (uint64_le_iff.2 le_rfl) (uint64_lt_iff.2 hlt))
      rw [hv, Prod.mk.injEq] at h
      obtain ⟨hr, hrest⟩ := ih (uint64_le_iff.2 (by rw [uint64_toNat_add_one hs1]; omega))
        (fun j hj hji => hmin j (uint64_le_iff.2 (by
          rw [uint64_le_iff, uint64_toNat_add_one hs1] at hj; omega)) hji) (Prod.ext rfl h.2)
      rw [← h.1, blockRange_eq_cons (uint64_le_iff.2 (Nat.le_of_lt hlt)) hs1]
      exact ⟨hr, congrArg (s :: ·) hrest⟩

/-- When the loop returns from the start of a range with a least failing block `i`, it has
fetched the blocks up to `i` and fails with the error of `i`, whatever the end block. -/
theorem storageLoop_of_least {startBlockNumber i : UInt64} {err : Error} {fuel : Nat}
    {historicStates : List (ParsedState Storage)} {fetched : List UInt64}
    {r : Except Error (ReportingResponseTemplate Storage)}
    (hi : i ∈ blockRange startBlockNumber endBlockNumber)
    (hf : FailsAt db parseRawStorage address template i err)
    (hmin : ∀ j ∈ blockRange startBlockNumber endBlockNumber, j < i →
      ∀ err', ¬ FailsAt db parseRawStorage address template j err')
    (h : storageLoop db parseRawStorage address template endBlockNumber fuel startBlockNumber
      historicStates = (fetched, some r)) :
    r = .error err ∧ fetched = blockRange startBlockNumber i := by
  obtain ⟨hsi, hie⟩ := mem_blockRange.1 hi
  refine storageLoop_of_least_failsAt db parseRawStorage address template endBlockNumber hf hie
    hsi (fun j hsj hji => hmin j (mem_blockRange.2 ⟨hsj, ?_⟩) hji) h
  rw [uint64_lt_iff] at hji
  rw [uint64_le_iff] at hie ⊢
  omega

/-- Whenever `GetStorageHistory` returns, it fails with the error of the least failing block
of the range, having fetched the blocks up to that one, whatever the end block. As long as
`endBlockNumber + 1` does not overflow, its result is the traversal of the range: with no
failing block, it lists, in increasing order, one entry for each block of the range with
non-`nil` storage, holding the decoded storage, and no other entry. -/
theorem getStorageHistory_traversal {startBlockNumber : UInt64} {fetched : List UInt64}
    {r : Except Error (ReportingResponseTemplate Storage)}
    (hret : HistoryReturns db parseRawStorage address template endBlockNumber startBlockNumber
      fetched r) :
    (∀ i err, i ∈ blockRange startBlockNumber endBlockNumber →
      FailsAt db parseRawStorage address template i err →
      (∀ j ∈ blockRange startBlockNumber endBlockNumber, j < i →
        ∀ err', ¬ FailsAt db parseRawStorage address template j err') →
      r = .error err ∧ fetched = blockRange startBlockNumber i) ∧
    (endBlockNumber.toNat + 1 < UInt64.size →
      (∀ i ∈ blockRange startBlockNumber endBlockNumber, ∀ err,
        ¬ FailsAt db parseRawStorage address template i err) →
      ∃ states, r = .ok ⟨address, states⟩ ∧ (states.map (·.blockNumber)).Sorted (· < ·) ∧
        ∀ i x, ⟨i, x⟩ ∈ states ↔ i ∈ blockRange startBlockNumber endBlockNumber ∧
          ∃ rawStorage, db.getStorage address i = .ok (some rawStorage) ∧
            parseRawStorage rawStorage template = .ok x) := by
  refine ⟨fun i err hi hf hmin => ?_, fun hend hok => ?_⟩
  · obtain ⟨fuel, h⟩ := hret
    exact storageLoop_of_least db parseRawStorage address template endBlockNumber hi hf hmin h
  · obtain ⟨rfl, rfl⟩ :=
      (historyReturns_iff db parseRawStorage address template endBlockNumber hend).1 hret
    rw [traverse_of_forall_not_failsAt db parseRawStorage address template hok]
    exact ⟨_, rfl, sorted_filterMap_entryAt db parseRawStorage address template
      (blockRange_sorted _ _), fun i x => mem_filterMap_entryAt db parseRawStorage address template⟩

/-- A store holding storage at block `11` only: a map with one entry. -/
def blockElevenDatabase : Database where
  getStorage _ i := .ok (if i = 11 then some ((∅ : StorageMap).insert 0 "01") else none)
  readTransaction _ := .error "not found"
  getContractABI _ := .ok ""

/-- Over blocks `10` to `12` of `blockElevenDatabase`, the answer holds one entry, for block
`11`. -/
theorem getStorageHistory_traversal_block_eleven :
    HistoryReturns blockElevenDatabase (fun _ (_ : Unit) => .ok ()) 0 () 12 10 [10, 11, 12]
      (.ok ⟨0, [⟨11, ()⟩]⟩) ∧
    ((∀ i err, i ∈ blockRange 10 12 → FailsAt blockElevenDatabase (fun _ _ => .ok ()) 0 () i err →
      (∀ j ∈ blockRange 10 12, j < i →
        ∀ err', ¬ FailsAt blockElevenDatabase (fun _ _ => .ok ()) 0 () j err') →
      (.ok ⟨0, [⟨11, ()⟩]⟩ : Except Error (ReportingResponseTemplate Unit)) = .error err ∧
        [10, 11, 12] = blockRange 10 i) ∧
    ((12 : UInt64).toNat + 1 < UInt64.size →
      (∀ i ∈ blockRange 10 12, ∀ err, ¬ FailsAt blockElevenDatabase (fun _ _ => .ok ()) 0 () i err) →
      ∃ states, (.ok ⟨0, [⟨11, ()⟩]⟩ : Except Error (ReportingResponseTemplate Unit)) =
          .ok ⟨0, states⟩ ∧
        (states.map (·.blockNumber)).Sorted (· < ·) ∧
        ∀ i x, ⟨i, x⟩ ∈ states ↔ i ∈ blockRange 10 12 ∧
          ∃ rawStorage, blockElevenDatabase.getStorage 0 i = .ok (some rawStorage) ∧
            (fun _ _ => .ok ()) rawStorage () = (.ok x : Except Error Unit))) :=
  ⟨⟨4, rfl⟩, getStorageHistory_traversal blockElevenDatabase (fun _ (_ : Unit) => .ok ()) 0 () 12
    ⟨4, rfl⟩⟩

/-- A store whose storage is an allocated map with no entry, at every block. -/
def emptyMapDatabase : Database where
  getStorage _ _ := .ok (some ∅)
  readTransaction _ := .error "not found"
  getContractABI _ := .ok ""

/-- A block whose storage is an allocated, empty map still gets an entry: the loop only skips
`nil` storage. -/
theorem getStorageHistory_empty_map_entry :
    emptyMapDatabase.getStorage 0 0 = .ok (some ∅) ∧
      HistoryReturns emptyMapDatabase (fun _ (_ : Unit) => .ok ()) 0 () 0 0 [0]
        (.ok ⟨0, [⟨0, ()⟩]⟩) :=
  ⟨rfl, 2, rfl⟩

/-- At `endBlockNumber = 2 ^ 64 - 1`, with no failing block, the loop never returns: after
`fuel` iterations it has fetched `fuel` consecutive blocks from `i`, counted modulo `2 ^ 64`. -/
theorem storageLoop_of_max (hmax : endBlockNumber.toNat + 1 = UInt64.size)
    (hok : ∀ i err, ¬ FailsAt db parseRawStorage address template i err) (fuel : Nat) (i : UInt64)
    (historicStates : List (ParsedState Storage)) :
    storageLoop db parseRawStorage address template endBlockNumber fuel i historicStates =
      ((List.range fuel).map fun k => UInt64.ofNat (i.toNat + k), none) := by
  induction fuel generalizing i historicStates with
  | zero => rfl
  | succ fuel ih =>
    have hi : i ≤ endBlockNumber := uint64_le_iff.2 (by have := uint64_toNat_lt i; omega)
    obtain ⟨entry, hv⟩ := storageAt_eq_ok_of_not_failsAt db parseRawStorage address template
      (hok i)
    simp only [storageLoop, if_pos hi, hv, ih, List.range_succ_eq_map, List.map_cons,
      List.map_map, Nat.add_zero, uint64_ofNat_toNat, Prod.mk.injEq, and_true, List.cons.injEq,
      true_and]
    refine List.map_congr_left fun k _ => UInt64.toNat.inj ?_
    simp only [Function.comp, uint64_toNat_ofNat, uint64_toNat_add]
    rw [show (1 : UInt64).toNat = 1 from rfl, show UInt64.size = 18446744073709551616 from rfl]
    omega

/-- At `endBlockNumber = 2 ^ 64 - 1`, a store and a decoder that never fail keep
`GetStorageHistory` running forever: it never returns, and it goes on fetching the blocks
after `startBlockNumber`, block `0` coming after block `2 ^ 64 - 1`. -/
theorem getStorageHistory_wraps (hmax : endBlockNumber.toNat + 1 = UInt64.size)
    (hok : ∀ i err, ¬ FailsAt db parseRawStorage address template i err)
    (startBlockNumber : UInt64) :
    (∀ fetched r, ¬ HistoryReturns db parseRawStorage address template endBlockNumber
      startBlockNumber fetched r) ∧
    ∀ fuel, (storageLoop db parseRawStorage address template endBlockNumber fuel
      startBlockNumber []).1 = (List.range fuel).map fun k => UInt64.ofNat (startBlockNumber.toNat + k) := by
  refine ⟨fun fetched r ⟨fuel, h⟩ => ?_, fun fuel => ?_⟩
  · rw [storageLoop_of_max db parseRawStorage address template endBlockNumber hmax hok] at h
    simp at h
  · rw [storageLoop_of_max db parseRawStorage address template endBlockNumber hmax hok]

end GetStorageHistory

/-- With the end block `2 ^ 64 - 1` and a store that records no storage, `GetStorageHistory`
from block `1` never returns, and fetches block `0` at its `2 ^ 64`-th iteration. -/
theorem getStorageHistory_wraps_nil :
    (∀ fetched r, ¬ HistoryReturns nilDatabase (fun _ (_ : Unit) => .ok ()) 0 ()
      18446744073709551615 1 fetched r) ∧
    ∀ fuel, (storageLoop nilDatabase (fun _ (_ : Unit) => .ok ()) 0 () 18446744073709551615
      fuel 1 []).1 = (List.range fuel).map fun k => UInt64.ofNat ((1 : UInt64).toNat + k) :=
  getStorageHistory_wraps nilDatabase _ 0 () 18446744073709551615 (by decide)
    (fun _ _ h => by rcases h with h | ⟨_, h, _⟩ <;> cases h) 1

section GetStorageHistoryTwo

variable {Storage : Type} (db : Database) (parseRawStorageTwo : StorageMap → Except Error Storage)
  (address : Address)

/-- The loop of `GetStorageHistoryTwo`: `for i := 1; i <= 1; i++` over a Go `int`, with the body
of `GetStorageHistory` at block `uint64(i)`, decoding with `parseRawStorageTwo`, which takes
no template. -/
def storageLoopTwo (i : Int) (historicStates : List (ParsedState Storage)) :
    Except Error (ReportingResponseTemplate Storage) :=
  if i ≤ 1 then
    match storageAt db (fun rawStorage (_ : Unit) => parseRawStorageTwo rawStorage) address ()
        (UInt64.ofNat i.toNat) with
    | .error err => .error err
    | .ok entry => storageLoopTwo (i + 1) (historicStates ++ entry.toList)
  else .ok ⟨address, historicStates⟩
termination_by (2 - i).toNat

/-- `GetStorageHistoryTwo(address)`. -/
def getStorageHistoryTwo : Except Error (ReportingResponseTemplate Storage) :=
  storageLoopTwo db parseRawStorageTwo address 1 []

/-- `GetStorageHistoryTwo(address)` is `GetStorageHistory(address, 1, 1, template)` with
`parseRawStorageTwo` for the decoder: it fetches block `1` and returns what the general method
returns. -/
theorem historyReturns_getStorageHistoryTwo :
    HistoryReturns db (fun rawStorage (_ : Unit) => parseRawStorageTwo rawStorage) address () 1 1
      [1] (getStorageHistoryTwo db parseRawStorageTwo address) := by
  have hexit : ∀ historicStates, storageLoopTwo db parseRawStorageTwo address (1 + 1)
      historicStates = .ok ⟨address, historicStates⟩ := fun historicStates => by
    rw [storageLoopTwo, if_neg (by decide)]
  refine ⟨2, ?_⟩
  rw [getStorageHistoryTwo, storageLoopTwo, if_pos (by decide),
    show UInt64.ofNat (Int.toNat 1) = 1 from rfl]
  simp only [storageLoop, if_pos (UInt64.le_refl 1), show ¬ (1 + 1 : UInt64) ≤ 1 by decide,
    if_false]
  cases storageAt db (fun rawStorage (_ : Unit) => parseRawStorageTwo rawStorage) address () 1 with
  | error err => rfl
  | ok entry => simp only [hexit]

end GetStorageHistoryTwo

end QuorumReport.Rpc
