import QuorumReport.Rpc.Transaction

/-!
# `RPCAPIs.GetAllEventsFromAddress` and the address queries

`GetAllTransactionsToAddress`, `GetAllTransactionsInternalToAddress` and
`GetAllEventsFromAddress` take optional `QueryOptions`: a `nil` one is replaced by the zero
value, `SetDefaults` fills it in, and the store answers the query with it. `QueryOptions`,
its zero value and `SetDefaults` belong to the `types` package, which is not among the
repository's files: they are the parameters `QueryOptions`, `zeroOptions` and
`setDefaults`.

`GetAllEventsFromAddress` then makes one entry for each event the store returns, holding the
event, and decodes it with the ABI registered for the queried address when that ABI is not
empty; the first event that does not decode fails the call. Unlike `GetTransaction`, it
leaves no entry `nil`, and it decodes with the ABI of the address asked about rather than of
each event's emitter. Both methods read the same store, so on an event they both return they
agree: `GetTransaction` holds the entry `GetAllEventsFromAddress` makes for it, and leaves
`nil` exactly the entries that `GetAllEventsFromAddress` leaves undecoded.

## Main results

* `getAllEventsFromAddress_eq_ok_iff`: the answers of the store and of `ParseEvent` for which
  the method returns a given list, entry by entry;
* `getTransaction_agrees_getAllEventsFromAddress`: the two methods decode an event they both
  return in the same way.
-/

namespace QuorumReport.Rpc

/-- The calls of `database.Database` that take `QueryOptions`, beside those of `Database`. -/
structure QueryDatabase (QueryOptions : Type) extends Database where
  /-- `GetAllTransactionsToAddress(address, options)`. -/
  getAllTransactionsToAddress : Address → QueryOptions → Except Error (List Hash)
  /-- `GetAllTransactionsInternalToAddress(address, options)`. -/
  getAllTransactionsInternalToAddress : Address → QueryOptions → Except Error (List Hash)
  /-- `GetAllEventsFromAddress(address, options)`: the stored events the contract emitted. -/
  getAllEventsFromAddress : Address → QueryOptions → Except Error (List Event)

section AddressQueries

variable {TxParse EventParse QueryOptions : Type} (db : QueryDatabase QueryOptions)
  (parseTransaction : String → Transaction → Except Error TxParse)
  (parseEvent : String → Event → Except Error EventParse) (unparsed : EventParse)
  (zeroOptions : QueryOptions) (setDefaults : QueryOptions → QueryOptions)

/-- A store query run with the caller's options: `&types.QueryOptions{}` for `nil`, then
`options.SetDefaults()`. -/
def queryWithDefaults {α : Type} (query : Address → QueryOptions → Except Error α)
    (address : Address) (options : Option QueryOptions) : Except Error α :=
  query address (setDefaults (options.getD zeroOptions))

/-- `GetAllTransactionsToAddress(address, options)`. -/
def getAllTransactionsToAddress (address : Address) (options : Option QueryOptions) :
    Except Error (List Hash) :=
  queryWithDefaults zeroOptions setDefaults db.getAllTransactionsToAddress address options

/-- `GetAllTransactionsInternalToAddress(address, options)`. -/
def getAllTransactionsInternalToAddress (address : Address) (options : Option QueryOptions) :
    Except Error (List Hash) :=
  queryWithDefaults zeroOptions setDefaults db.getAllTransactionsInternalToAddress address options

/-- The body of the event loop of `GetAllEventsFromAddress`: an entry holding the event, which
`ParseEvent` fills in when the address's ABI is not empty; otherwise its decoded fields keep
their zero value `unparsed`. -/
def eventEntryOf (contractABI : String) (e : Event) : Except Error (ParsedEvent EventParse) :=
  if contractABI ≠ "" then do
    let parsed ← parseEvent contractABI e
    pure ⟨e, parsed⟩
  else pure ⟨e, unparsed⟩

/-- `GetAllEventsFromAddress(address, options)`. `parsedEvents` is made with one entry per
event and filled in order, which is the traversal `mapM` of the event loop's body. -/
def getAllEventsFromAddress (address : Address) (options : Option QueryOptions) :
    Except Error (List (ParsedEvent EventParse)) := do
  let events ← queryWithDefaults zeroOptions setDefaults db.getAllEventsFromAddress address options
  let contractABI ← db.getContractABI address
  events.mapM (eventEntryOf parseEvent unparsed contractABI)

/-- The event loop's body: the entry holds the event, undecoded under an empty ABI and
otherwise with what `ParseEvent` decodes. -/
theorem eventEntryOf_eq_ok_iff {contractABI : String} {e : Event} {pe : ParsedEvent EventParse} :
    eventEntryOf parseEvent unparsed contractABI e = .ok pe ↔ pe.rawEvent = e ∧
      if contractABI = "" then pe.parsed = unparsed else parseEvent contractABI e = .ok pe.parsed := by
  obtain ⟨raw, parsed⟩ := pe
  by_cases hc : contractABI = ""
  · simp [eventEntryOf, hc, pure, Except.pure, eq_comm, and_comm]
  · simp only [eventEntryOf, hc, ne_eq, not_false_eq_true, if_true, if_false, except_bind_eq_ok,
      pure, Except.pure, Except.ok.injEq, ParsedEvent.mk.injEq]
    constructor
    · rintro ⟨p, hp, rfl, rfl⟩
      exact ⟨rfl, hp⟩
    · rintro ⟨rfl, hp⟩
      exact ⟨parsed, hp, rfl, rfl⟩

/-- `GetAllEventsFromAddress` returns `parsedEvents` exactly when the store returns events
for the address under the defaulted options, and an ABI, and `parsedEvents` has one entry per
event, in order, holding the event: undecoded when the ABI is empty, and otherwise with what
`ParseEvent` decodes of it. -/
theorem getAllEventsFromAddress_eq_ok_iff {address : Address} {options : Option QueryOptions}
    {parsedEvents : List (ParsedEvent EventParse)} :
    getAllEventsFromAddress db parseEvent unparsed zeroOptions setDefaults address options =
        .ok parsedEvents ↔
      ∃ events contractABI,
        db.getAllEventsFromAddress address (setDefaults (options.getD zeroOptions)) = .ok events ∧
        db.getContractABI address = .ok contractABI ∧
        List.Forall₂ (fun e pe => pe.rawEvent = e ∧
          if contractABI = "" then pe.parsed = unparsed else parseEvent contractABI e = .ok pe.parsed)
          events parsedEvents := by
  simp only [getAllEventsFromAddress, queryWithDefaults, except_bind_eq_ok, mapM_eq_ok_iff,
    eventEntryOf_eq_ok_iff, exists_and_left]

/-- An event that `GetTransaction` and `GetAllEventsFromAddress` both return, the second for
the event's emitter, is decoded alike by both: when the emitter has an ABI, `GetTransaction`
holds exactly the entry `GetAllEventsFromAddress` makes, and otherwise `GetTransaction`
leaves the entry `nil` where `GetAllEventsFromAddress` leaves it undecoded. -/
theorem getTransaction_agrees_getAllEventsFromAddress {hash : Hash}
    {ptx : ParsedTransaction TxParse EventParse} {address : Address}
    {options : Option QueryOptions} {parsedEvents : List (ParsedEvent EventParse)}
    (htx : getTransaction db.toDatabase parseTransaction parseEvent hash = .ok ptx)
    (hev : getAllEventsFromAddress db parseEvent unparsed zeroOptions setDefaults address options =
      .ok parsedEvents)
    {i j : Nat} (hi : i < ptx.rawTransaction.events.length) (hp : i < ptx.parsedEvents.length)
    (hj : j < parsedEvents.length) (hemitter : ptx.rawTransaction.events[i].address = address)
    (hsame : parsedEvents[j].rawEvent = ptx.rawTransaction.events[i]) :
    ∃ contractABI, db.getContractABI address = .ok contractABI ∧
      (contractABI ≠ "" → ptx.parsedEvents[i] = some parsedEvents[j]) ∧
      (contractABI = "" → ptx.parsedEvents[i] = none ∧ parsedEvents[j].parsed = unparsed) := by
  obtain ⟨events, contractABI, -, ha, hall⟩ :=
    (getAllEventsFromAddress_eq_ok_iff db parseEvent unparsed zeroOptions setDefaults).1 hev
  have hloop := getTransaction_mapM_parsedEventOf db.toDatabase parseTransaction parseEvent htx
    (List.ne_nil_of_length_pos (by omega))
  obtain ⟨abi, habi, hcase⟩ := (parsedEventOf_eq_ok_iff db.toDatabase parseEvent).1
    (((mapM_eq_ok_iff _ _ _).1 hloop).get hi hp)
  obtain ⟨hraw, hparse⟩ := hall.get (hall.length_eq ▸ hj) hj
  simp only [List.get_eq_getElem] at habi hcase hraw hparse
  rw [hemitter, ha, Except.ok.injEq] at habi
  subst habi
  refine ⟨contractABI, ha, fun hne => ?_, fun hz => ?_⟩
  · rw [if_neg hne] at hcase hparse
    obtain ⟨parsed, hpe, hentry⟩ := hcase
    rw [← hraw, hsame, hpe, Except.ok.injEq] at hparse
    rw [hentry, hparse, ← hsame]
  · rw [if_pos hz] at hcase hparse
    exact ⟨hcase, hparse⟩

end AddressQueries

/-- A store holding one transaction, to the contract `1`, whose one event the contract `2`
emitted; the store returns that event among the events of `2`, and every contract has an
ABI. -/
def sharedEventDatabase : QueryDatabase Unit where
  getStorage _ _ := .ok none
  readTransaction _ := .ok ⟨0, 1, 0, [], [⟨2, [], []⟩]⟩
  getContractABI _ := .ok "[]"
  getAllTransactionsToAddress _ _ := .ok []
  getAllTransactionsInternalToAddress _ _ := .ok []
  getAllEventsFromAddress _ _ := .ok [⟨2, [], []⟩]

/-- The answer of `GetTransaction` for `sharedEventDatabase`: its event decoded. -/
def sharedEventParsed : ParsedTransaction Unit Unit :=
  ⟨⟨0, 1, 0, [], [⟨2, [], []⟩]⟩, some (), [some ⟨⟨2, [], []⟩, ()⟩]⟩

/-- On `sharedEventDatabase` the entry of `GetTransaction` for the event of `2` is the entry
`GetAllEventsFromAddress` makes for it. -/
theorem getTransaction_agrees_getAllEventsFromAddress_shared :
    getTransaction sharedEventDatabase.toDatabase (fun _ _ => .ok ()) (fun _ _ => .ok ()) 0 =
        .ok sharedEventParsed ∧
      getAllEventsFromAddress sharedEventDatabase (fun _ _ => .ok ()) () () id 2 none =
        .ok [⟨⟨2, [], []⟩, ()⟩] ∧
      ∃ contractABI, sharedEventDatabase.getContractABI 2 = .ok contractABI ∧
        (contractABI ≠ "" →
          sharedEventParsed.parsedEvents[0] = some ([⟨⟨2, [], []⟩, ()⟩] : List (ParsedEvent Unit))[0]) ∧
        (contractABI = "" → sharedEventParsed.parsedEvents[0] = none ∧
          ([⟨⟨2, [], []⟩, ()⟩] : List (ParsedEvent Unit))[0].parsed = ()) :=
  have htx : getTransaction sharedEventDatabase.toDatabase (fun _ _ => .ok ()) (fun _ _ => .ok ())
      0 = .ok sharedEventParsed := rfl
  have hev : getAllEventsFromAddress sharedEventDatabase (fun _ _ => .ok ()) () () id 2 none =
      .ok [⟨⟨2, [], []⟩, ()⟩] := rfl
  ⟨htx, hev, getTransaction_agrees_getAllEventsFromAddress sharedEventDatabase (fun _ _ => .ok ())
    (fun _ _ => .ok ()) () () id htx hev (i := 0) (j := 0) (by decide) (by decide) (by decide)
    rfl rfl⟩

end QuorumReport.Rpc
