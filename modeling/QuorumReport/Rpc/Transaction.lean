import QuorumReport.Rpc.Types

/-!
# `RPCAPIs.GetTransaction`

`GetTransaction` reads a stored transaction, looks up the ABI registered for its target
(`To`, or `CreatedContract` when `To` is the zero address), and, only when that ABI is not
empty, decodes the transaction and each of its events: an event is decoded with the ABI
registered for its emitter, and left `nil` when that ABI is empty.

`ParseTransaction` and `ParseEvent` belong to the `types` package, which is not among the
repository's files: they are the parameters `parseTransaction` and `parseEvent`, arbitrary
functions that may fail, returning what they decode (`TxParse`, `EventParse`).

## Main results

* `mapM_eq_ok_iff`: a traversal in `Except` succeeds exactly when every element does, pointwise;
* `getTransaction_parsedEvents`: `ParsedEvents` is empty when the target has no ABI, and
  otherwise index-aligned with the events, entry `i` set exactly when event `i`'s emitter
  has an ABI.
-/

namespace QuorumReport.Rpc

/-- `types.ParsedEvent`: an event and what `ParseEvent` decoded of it. -/
structure ParsedEvent (EventParse : Type) where
  /-- The stored event. -/
  rawEvent : Event
  /-- The fields `ParseEvent` filled in. -/
  parsed : EventParse
deriving DecidableEq

/-- `types.ParsedTransaction`: a transaction, what `ParseTransaction` decoded of it, and its
decoded events. -/
structure ParsedTransaction (TxParse EventParse : Type) where
  /-- The stored transaction. -/
  rawTransaction : Transaction
  /-- The fields `ParseTransaction` filled in, `none` when it was not called. -/
  parsed : Option TxParse
  /-- `ParsedEvents`: one entry per event, `none` for a `nil` entry. -/
  parsedEvents : List (Option (ParsedEvent EventParse))
deriving DecidableEq

/-- A traversal in `Except` succeeds exactly when every element does, pointwise. -/
theorem mapM_eq_ok_iff {ε α β : Type} (f : α → Except ε β) (xs : List α) (ys : List β) :
    xs.mapM f = .ok ys ↔ List.Forall₂ (fun x y => f x = .ok y) xs ys := by
  induction xs generalizing ys with
  | nil => rw [List.mapM_nil]; cases ys <;> simp [pure, Except.pure]
  | cons x xs ih =>
    rw [List.mapM_cons]
    cases ys <;> simp [except_bind_eq_ok, pure, Except.pure, ← ih]

section GetTransaction

variable {TxParse EventParse : Type} (db : Database)
  (parseTransaction : String → Transaction → Except Error TxParse)
  (parseEvent : String → Event → Except Error EventParse)

/-- The body of the event loop of `GetTransaction`: look up the ABI of the event's emitter,
and decode the event with it when it is not empty; the entry stays `nil` otherwise. -/
def parsedEventOf (e : Event) : Except Error (Option (ParsedEvent EventParse)) := do
  let contractABI ← db.getContractABI e.address
  if contractABI ≠ "" then
    let parsed ← parseEvent contractABI e
    pure (some ⟨e, parsed⟩)
  else
    pure none

/-- `GetTransaction(hash)`. `ParsedEvents` is made with one `nil` entry per event and filled
in order, which is the traversal `mapM` of the event loop's body. -/
def getTransaction (hash : Hash) : Except Error (ParsedTransaction TxParse EventParse) := do
  let tx ← db.readTransaction hash
  let address := if tx.toAddress = zeroAddress then tx.createdContract else tx.toAddress
  let contractABI ← db.getContractABI address
  if contractABI ≠ "" then
    let parsed ← parseTransaction contractABI tx
    let parsedEvents ← tx.events.mapM (parsedEventOf db parseEvent)
    pure ⟨tx, some parsed, parsedEvents⟩
  else
    pure ⟨tx, none, []⟩

/-- The event loop's body succeeds with an entry that is set exactly when the emitter's ABI is
not empty, and then holds the event itself. -/
theorem parsedEventOf_eq_ok {e : Event} {entry : Option (ParsedEvent EventParse)}
    (h : parsedEventOf db parseEvent e = .ok entry) :
    ∃ contractABI, db.getContractABI e.address = .ok contractABI ∧
      (entry.isSome ↔ contractABI ≠ "") ∧ ∀ pe ∈ entry, pe.rawEvent = e := by
  obtain ⟨contractABI, ha, h⟩ := except_bind_eq_ok.1 h
  refine ⟨contractABI, ha, ?_⟩
  split_ifs at h with hc
  · obtain ⟨parsed, -, h⟩ := except_bind_eq_ok.1 h
    cases h
    simp [hc]
  · cases h
    simp [hc]

/-- The event loop's body, with what it decodes: no entry for an emitter without an ABI, and
otherwise the event with what `ParseEvent` decodes of it. -/
theorem parsedEventOf_eq_ok_iff {e : Event} {entry : Option (ParsedEvent EventParse)} :
    parsedEventOf db parseEvent e = .ok entry ↔
      ∃ contractABI, db.getContractABI e.address = .ok contractABI ∧
        if contractABI = "" then entry = none
        else ∃ parsed, parseEvent contractABI e = .ok parsed ∧ entry = some ⟨e, parsed⟩ := by
  simp only [parsedEventOf, except_bind_eq_ok]
  refine exists_congr fun contractABI => and_congr_right fun _ => ?_
  by_cases hc : contractABI = ""
  · simp [hc, pure, Except.pure, eq_comm]
  · simp only [hc, ne_eq, not_false_eq_true, if_true, if_false, except_bind_eq_ok, pure,
      Except.pure, Except.ok.injEq]
    exact exists_congr fun _ => and_congr_right fun _ => eq_comm

/-- When `GetTransaction` returns entries, they are what the event loop gives over the
transaction's events. -/
theorem getTransaction_mapM_parsedEventOf {hash : Hash} {ptx : ParsedTransaction TxParse EventParse}
    (h : getTransaction db parseTransaction parseEvent hash = .ok ptx) (hne : ptx.parsedEvents ≠ []) :
    ptx.rawTransaction.events.mapM (parsedEventOf db parseEvent) = .ok ptx.parsedEvents := by
  obtain ⟨tx, -, h⟩ := except_bind_eq_ok.1 h
  obtain ⟨targetABI, -, h⟩ := except_bind_eq_ok.1 h
  split_ifs at h
  · obtain ⟨parsed, -, h⟩ := except_bind_eq_ok.1 h
    obtain ⟨parsedEvents, he, h⟩ := except_bind_eq_ok.1 h
    cases h
    exact he
  · cases h
    exact absurd rfl hne

/-- Whenever `GetTransaction` succeeds, its `ParsedEvents` depends on the target's ABI as well
as the emitters': it is empty when the ABI registered for the target is empty. Otherwise it
has one entry per event, entry `i` set exactly when the ABI registered for event `i`'s
emitter is not empty, and then holding event `i`. -/
theorem getTransaction_parsedEvents {hash : Hash} {ptx : ParsedTransaction TxParse EventParse}
    (h : getTransaction db parseTransaction parseEvent hash = .ok ptx) :
    ∃ tx targetABI, db.readTransaction hash = .ok tx ∧
      db.getContractABI (if tx.toAddress = zeroAddress then tx.createdContract else tx.toAddress) =
        .ok targetABI ∧
      ptx.rawTransaction = tx ∧
      (targetABI = "" → ptx.parsedEvents = []) ∧
      (targetABI ≠ "" → ptx.parsedEvents.length = tx.events.length ∧
        ∀ i (hi : i < tx.events.length) (hp : i < ptx.parsedEvents.length),
          ∃ eventABI, db.getContractABI tx.events[i].address = .ok eventABI ∧
            (ptx.parsedEvents[i].isSome ↔ eventABI ≠ "") ∧
            ∀ pe ∈ ptx.parsedEvents[i], pe.rawEvent = tx.events[i]) := by
  obtain ⟨tx, hr, h⟩ := except_bind_eq_ok.1 h
  obtain ⟨targetABI, ha, h⟩ := except_bind_eq_ok.1 h
  refine ⟨tx, targetABI, hr, ha, ?_⟩
  split_ifs at h with hc
  · obtain ⟨parsed, -, h⟩ := except_bind_eq_ok.1 h
    obtain ⟨parsedEvents, he, h⟩ := except_bind_eq_ok.1 h
    cases h
    have hall := (mapM_eq_ok_iff _ _ _).1 he
    exact ⟨rfl, fun h' => absurd h' hc, fun _ => ⟨hall.length_eq.symm, fun i hi hp =>
      parsedEventOf_eq_ok db parseEvent (hall.get hi hp)⟩⟩
  · cases h
    exact ⟨rfl, fun _ => rfl, fun h' => absurd (not_not.1 hc) h'⟩

end GetTransaction

/-- A store holding one transaction, to the contract `1`, with events emitted by the contract
`2`, which has an ABI, and by the contract `3`, which has none. -/
def registeredTargetDatabase : Database where
  getStorage _ _ := .ok none
  readTransaction _ := .ok ⟨0, 1, 0, [], [⟨2, [], []⟩, ⟨3, [], []⟩]⟩
  getContractABI a := .ok (if a = 3 then "" else "[]")

/-- The answer for `registeredTargetDatabase`: the event of `2` decoded, that of `3` left
`nil`. -/
def registeredTargetParsed : ParsedTransaction Unit Unit :=
  ⟨⟨0, 1, 0, [], [⟨2, [], []⟩, ⟨3, [], []⟩]⟩, some (), [some ⟨⟨2, [], []⟩, ()⟩, none]⟩

/-- With a registered target, the event of `2` is decoded and that of `3` is left `nil`. -/
theorem getTransaction_parsedEvents_registered :
    getTransaction registeredTargetDatabase (fun _ _ => .ok ()) (fun _ _ => .ok ()) 0 =
        .ok registeredTargetParsed ∧
      ∃ tx targetABI, registeredTargetDatabase.readTransaction 0 = .ok tx ∧
        registeredTargetDatabase.getContractABI
          (if tx.toAddress = zeroAddress then tx.createdContract else tx.toAddress) = .ok targetABI ∧
        registeredTargetParsed.rawTransaction = tx ∧
        (targetABI = "" → registeredTargetParsed.parsedEvents = []) ∧
        (targetABI ≠ "" → registeredTargetParsed.parsedEvents.length = tx.events.length ∧
          ∀ i (hi : i < tx.events.length) (hp : i < registeredTargetParsed.parsedEvents.length),
            ∃ eventABI, registeredTargetDatabase.getContractABI tx.events[i].address = .ok eventABI ∧
              (registeredTargetParsed.parsedEvents[i].isSome ↔ eventABI ≠ "") ∧
              ∀ pe ∈ registeredTargetParsed.parsedEvents[i], pe.rawEvent = tx.events[i]) :=
  ⟨rfl, @getTransaction_parsedEvents Unit Unit registeredTargetDatabase (fun _ _ => .ok ())
    (fun _ _ => .ok ()) 0 registeredTargetParsed rfl⟩

/-- A store holding one transaction, to the contract `1` that has no ABI, with one event
emitted by the contract `2` that has one. -/
def unregisteredTargetDatabase : Database where
  getStorage _ _ := .ok none
  readTransaction _ := .ok ⟨0, 1, 0, [], [⟨2, [], []⟩]⟩
  getContractABI a := .ok (if a = 2 then "[]" else "")

/-- When the target has no ABI, `ParsedEvents` stays empty although the transaction has an
event whose emitter has an ABI. -/
theorem getTransaction_unregistered_target :
    unregisteredTargetDatabase.getContractABI 2 = .ok "[]" ∧
      getTransaction unregisteredTargetDatabase (fun _ _ => .ok ()) (fun _ _ => .ok ()) 0 =
        .ok (⟨⟨0, 1, 0, [], [⟨2, [], []⟩]⟩, none, []⟩ : ParsedTransaction Unit Unit) :=
  ⟨rfl, rfl⟩

end QuorumReport.Rpc
