import SearchAppliance.Proofs.Service.Exchange

namespace SearchAppliance.Service

/-- A request, and what the clock shows while it is answered. -/
structure Arrival where
  clock : Clock
  request : Request

/-- A request that was answered. -/
structure Exchange where
  arrival : Arrival
  response : Response

/-- The exchanges of a run of requests in order, and the engine after them. -/
structure Run where
  log : List Exchange
  engine : Engine

/-- Answers requests in order, each by the engine that those before it left. -/
def serve (identity : Text) : Engine → List Arrival → Run
  | engine, [] => ⟨[], engine⟩
  | engine, arrival :: rest =>
    let (response, next) := handle identity arrival.clock engine arrival.request
    let run := serve identity next rest
    ⟨⟨arrival, response⟩ :: run.log, run.engine⟩

/-- The exchanges in which a document was accepted. -/
def accepted (log : List Exchange) : List Exchange :=
  log.filter fun exchange => Accepted exchange.arrival.request exchange.response

/-- The documents that requests offer, in order. -/
inductive Offered : List Request → List Fields → Prop
  | nil : Offered [] []
  | offer {request : Request} {requests : List Request} {document : Fields}
      {documents : List Fields} {id : Text} (offers : request.Offers document id)
      (more : Offered requests documents) : Offered (request :: requests) (document :: documents)
  | other {request : Request} {requests : List Request} {documents : List Fields}
      (offersNone : ∀ document id, ¬request.Offers document id)
      (more : Offered requests documents) : Offered (request :: requests) documents

theorem Offered.unique {requests : List Request} {documents others : List Fields}
    (h : Offered requests documents) (hother : Offered requests others) :
    others = documents := by
  induction h generalizing others with
  | nil =>
    cases hother
    rfl
  | offer offers _ ih =>
    cases hother with
    | offer offers' more => rw [offers.unique offers', ih more]
    | other offersNone _ => exact absurd offers (offersNone _ _)
  | other offersNone _ ih =>
    cases hother with
    | offer offers _ => exact absurd offers (offersNone _ _)
    | other _ more => exact ih more

/-- Can the identifier of the document be sent back? -/
def sendable (document : Fields) : Bool := document.documentId?.any Text.isWellFormed

/-- An index as a log accounts for it. To the one at the beginning the documents were added that
the requests offered. Of these the ones were accepted whose identifier could be sent back. -/
structure Accounts (start : Index) (log : List Exchange) (documents : List Fields)
    (index : Index) : Prop where
  offered : Offered (log.map (·.arrival.request)) documents
  held : index = documents.foldl Index.offer start
  accepted : Offered ((accepted log).map (·.arrival.request)) (documents.filter sendable)
  acknowledged : (Service.accepted log).map (·.response) =
    ((documents.filter sendable).filterMap Fields.documentId?).map added

section Accounts

variable {start index : Index} {log : List Exchange} {documents : List Fields}

theorem Accounts.offer {arrival : Arrival} {document : Fields} {id : Text}
    (offers : arrival.request.Offers document id)
    (h : Accounts (start.offer document) log documents index) :
    Accounts start (⟨arrival, added id⟩ :: log) (document :: documents) index := by
  have hid : document.documentId? = some id := offers.2
  have hsame : sendable document = id.isWellFormed := by simp [sendable, hid]
  have hstatus : Accepted arrival.request (added id) ↔ id.isWellFormed = true :=
    ⟨fun h => (added_status id).mp h.2, fun h => ⟨offers.posts, (added_status id).mpr h⟩⟩
  -- The exchange is among the accepted ones exactly if its document is kept.
  by_cases hsent : id.isWellFormed = true
  · have haccepted : Service.accepted (⟨arrival, added id⟩ :: log) =
        ⟨arrival, added id⟩ :: Service.accepted log :=
      List.filter_cons_of_pos (decide_eq_true (hstatus.mpr hsent))
    have hkept : (document :: documents).filter sendable =
        document :: documents.filter sendable :=
      List.filter_cons_of_pos (hsame.trans hsent)
    refine ⟨.offer offers h.offered, h.held, ?_, ?_⟩
    · rw [haccepted, hkept]
      exact .offer offers h.accepted
    · rw [haccepted, hkept, List.filterMap_cons_some hid, List.map_cons, List.map_cons,
        h.acknowledged]
  · have haccepted : Service.accepted (⟨arrival, added id⟩ :: log) = Service.accepted log :=
      List.filter_cons_of_neg (by simpa using hstatus.not.mpr hsent)
    have hkept : (document :: documents).filter sendable = documents.filter sendable :=
      List.filter_cons_of_neg (hsame ▸ hsent)
    refine ⟨.offer offers h.offered, h.held, ?_, ?_⟩
    · rw [haccepted, hkept]
      exact h.accepted
    · rw [haccepted, hkept]
      exact h.acknowledged

theorem Accounts.other {exchange : Exchange}
    (offersNone : ∀ document id, ¬exchange.arrival.request.Offers document id)
    (hnot : ¬Accepted exchange.arrival.request exchange.response)
    (h : Accounts start log documents index) :
    Accounts start (exchange :: log) documents index := by
  have haccepted : Service.accepted (exchange :: log) = Service.accepted log :=
    List.filter_cons_of_neg (by simpa using hnot)
  exact ⟨.other offersNone h.offered, h.held, haccepted ▸ h.accepted, haccepted ▸ h.acknowledged⟩

end Accounts

theorem serve_arrivals (identity : Text) (engine : Engine) (arrivals : List Arrival) :
    (serve identity engine arrivals).log.map (·.arrival) = arrivals := by
  induction arrivals generalizing engine with
  | nil => rfl
  | cons arrival rest ih => exact congrArg (arrival :: ·) (ih _)

/-- The log of a run accounts for the index in the end. -/
theorem serve_accounts (identity : Text) (start : Index) (arrivals : List Arrival) :
    let run := serve identity (.own start) arrivals
    ∃ documents index, Accounts start run.log documents index ∧ run.engine = .own index := by
  -- The account begins with the index that the first request finds, so it moves with the run.
  induction arrivals generalizing start with
  | nil => exact ⟨[], start, ⟨.nil, rfl, .nil, rfl⟩, rfl⟩
  | cons arrival rest ih =>
    by_cases hoffers : ∃ document id, arrival.request.Offers document id
    · obtain ⟨document, id, hoffers⟩ := hoffers
      obtain ⟨documents, index, haccounts, hengine⟩ := ih (start.offer document)
      rw [serve, handle_offer identity arrival.clock start hoffers]
      exact ⟨document :: documents, index, haccounts.offer hoffers, hengine⟩
    · have hno (document : Fields) (id : Text) : ¬arrival.request.Offers document id :=
        fun h => hoffers ⟨document, id, h⟩
      obtain ⟨hnot, hsame⟩ := handle_other identity arrival.clock (.own start) hno
      obtain ⟨documents, index, haccounts, hengine⟩ := ih start
      rw [serve]
      simp only [hsame]
      exact ⟨documents, index, haccounts.other hno hnot, hengine⟩

end SearchAppliance.Service
