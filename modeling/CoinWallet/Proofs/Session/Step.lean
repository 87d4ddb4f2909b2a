import CoinWallet.Session.Basic

set_option autoImplicit false

namespace CoinWallet

inductive Refresh.Step (m : Manager) (now : Moment) (id : CallId) :
    Event → Refresh → Manager → Refresh → Prop
  | refuse {forced : Bool} (down : m.isShutDown = true) :
    Step m now id .proceed (.called forced) m (.finished (.fail .cancelled))
  | join {forced : Bool} (up : m.isShutDown = false) :
    Step m now id .proceed (.called forced) { m with debouncer := m.debouncer.join id }
      (.waiting forced)
  | skip {forced : Bool} (turn : m.debouncer.line.isHeldBy id = true)
      (fresh : m.debouncer.skips forced now.elapsed = true) :
    Step m now id .proceed (.waiting forced) { m with debouncer := m.debouncer.leave id }
      (.finished (.ok .skipped))
  | enter {forced : Bool} (turn : m.debouncer.line.isHeldBy id = true)
      (due : m.debouncer.skips forced now.elapsed = false) :
    Step m now id .proceed (.waiting forced) m .entered
  | ask :
    Step m now id .proceed .entered { m with updatePhase := .updating }
      (.asking (.ofPlan (m.chain.refreshPlan m.wallet)))
  | fetch {fetch : Fetch Update} {update : Update} (settled : fetch.result? = some (.ok update)) :
    Step m now id .proceed (.asking fetch) m (.fetched update)
  | fail {fetch : Fetch Update} {fault : Fault ManagerError}
      (settled : fetch.result? = some (.error fault)) :
    Step m now id .proceed (.asking fetch) m (.leaving (.error fault))
  | commit {update : Update} :
    Step m now id .proceed (.fetched update)
      { m with wallet := update.commit m.wallet now.date } (.leaving (.ok ()))
  | idle {r : Outcome ManagerError Unit} :
    Step m now id .proceed (.leaving r) { m with updatePhase := .idle } (.left r)
  | leave {r : Outcome ManagerError Unit} :
    Step m now id .proceed (.left r)
      { m with debouncer := m.debouncer.complete id r.isOk now.elapsed }
      (.finished (r.map fun _ => .executed))
  | request {member : Nat} {event : Fetch.Event} {fetch next : Fetch Update} {m' : Manager}
      (moved : m.stepFetch? fetch member event = some (m', next)) :
    Step m now id (.request member event) (.asking fetch) m' (.asking next)
  | cancel {fetch : Fetch Update} (down : m.isShutDown = true) :
    Step m now id .cancel (.asking fetch) m (.leaving (.fail .cancelled))

theorem Refresh.step_of_step? {m m' : Manager} {now : Moment} {id : CallId} {event : Event}
    {r r' : Refresh} (moved : r.step? m now id event = some (m', r')) :
    Refresh.Step m now id event r m' r' := by
  cases event with
  | proceed =>
    cases r with
    | called forced =>
      simp only [step?, proceed?] at moved
      split at moved <;> cases moved
      next down => exact .refuse down
      next up => exact .join (Bool.not_eq_true _ ▸ up)
    | waiting forced =>
      simp only [step?, proceed?] at moved
      split at moved
      next turn =>
        split at moved <;> cases moved
        next fresh => exact .skip turn fresh
        next due => exact .enter turn (Bool.not_eq_true _ ▸ due)
      next => cases moved
    | entered =>
      cases moved
      exact .ask
    | asking fetch =>
      simp only [step?, proceed?, Option.map_eq_some_iff] at moved
      obtain ⟨r, settled, result⟩ := moved
      cases r with
      | ok update =>
        cases result
        exact .fetch settled
      | error fault =>
        cases result
        exact .fail settled
    | fetched update =>
      cases moved
      exact .commit
    | leaving r =>
      cases moved
      exact .idle
    | left r =>
      cases moved
      exact .leave
    | finished r => cases moved
  | request member event =>
    cases r <;> try cases moved
    case asking fetch =>
      simp only [step?, Option.map_eq_some_iff] at moved
      obtain ⟨⟨m', next⟩, moved, result⟩ := moved
      cases result
      exact .request moved
  | cancel =>
    cases r <;> try cases moved
    case asking fetch =>
      simp only [step?] at moved
      split at moved <;> cases moved
      exact .cancel ‹_›
  | signed r => cases moved
  | signedAll r => cases moved
  | listed r => cases moved

def Payload.sent (p : Payload) (hash : String) : Transaction :=
  { p.transaction with hash := some (Text.lower hash) }

inductive Send.Step (m : Manager) (id : CallId) : Event → Send → Manager → Send → Prop
  | refuse {payload : Payload} (down : m.isShutDown = true) :
    Step m id .proceed (.called payload) m (.finished (.fail .cancelled))
  | join {payload : Payload} (up : m.isShutDown = false) :
    Step m id .proceed (.called payload) { m with sendLine := m.sendLine.join id }
      (.waiting payload)
  | enter {payload : Payload} (turn : m.sendLine.isHeldBy id = true) :
    Step m id .proceed (.waiting payload) m (.entered payload)
  | build {payload : Payload} :
    Step m id .proceed (.entered payload) { m with sendPhase := .building }
      (.building payload m.wallet)
  | unbuilt {payload : Payload} {snapshot : Wallet} {cause : BuildError}
      (built : m.builder.buildForSign payload.transaction snapshot = .error cause) :
    Step m id .proceed (.building payload snapshot) m (.leaving (.fail (.build cause)))
  | nothingToSign {payload : Payload} {snapshot : Wallet}
      (built : m.builder.buildForSign payload.transaction snapshot = .ok []) :
    Step m id .proceed (.building payload snapshot) m (.leaving (.fail (.build .nothingToSign)))
  | sign {payload : Payload} {snapshot : Wallet} {hashes : List Bytes}
      (built : m.builder.buildForSign payload.transaction snapshot = .ok hashes)
      (some : hashes ≠ []) :
    Step m id .proceed (.building payload snapshot) { m with sendPhase := .signing }
      (.signing ⟨payload, snapshot, hashes⟩ [])
  | unsigned {job : Signing} {signatures : List Bytes} {cause : SignerError}
      (each : job.asksForAll = false) :
    Step m id (.signed (.error cause)) (.signing job signatures) m
      (.leaving (.fail (.signing cause)))
  | signOne {job : Signing} {signatures : List Bytes} {signature : Bytes}
      (each : job.asksForAll = false) (more : signatures.length + 1 < job.hashes.length) :
    Step m id (.signed (.ok signature)) (.signing job signatures) m
      (.signing job (signatures ++ [signature]))
  | signLast {job : Signing} {signatures : List Bytes} {signature : Bytes}
      (each : job.asksForAll = false) (last : job.hashes.length ≤ signatures.length + 1) :
    Step m id (.signed (.ok signature)) (.signing job signatures) m
      (.signed job (signatures ++ [signature]))
  | unsignedAll {job : Signing} {signatures : List Bytes} {cause : SignerError}
      (all : job.asksForAll = true) :
    Step m id (.signedAll (.error cause)) (.signing job signatures) m
      (.leaving (.fail (.signing cause)))
  | signAll {job : Signing} {before signatures : List Bytes} (all : job.asksForAll = true) :
    Step m id (.signedAll (.ok signatures)) (.signing job before) m (.signed job signatures)
  | count {job : Signing} {signatures : List Bytes}
      (right : signatures.length = job.hashes.length) :
    Step m id .proceed (.signed job signatures) { m with sendPhase := .broadcasting }
      (.sealing job signatures)
  | miscount {job : Signing} {signatures : List Bytes}
      (wrong : signatures.length ≠ job.hashes.length) :
    Step m id .proceed (.signed job signatures) m (.leaving (.fail (.signing
      (.unexpectedSignatureCount job.hashes.length signatures.length))))
  | unsealed {job : Signing} {signatures : List Bytes} {cause : BuildError}
      (built : m.builder.buildForSend job.payload.transaction job.snapshot signatures =
        .error cause) :
    Step m id .proceed (.sealing job signatures) m (.leaving (.fail (.build cause)))
  | broadcast {job : Signing} {signatures : List Bytes} {bytes : Bytes}
      (built : m.builder.buildForSend job.payload.transaction job.snapshot signatures =
        .ok bytes) :
    Step m id .proceed (.sealing job signatures) m
      (.broadcasting job.payload (.ofPlan (m.chain.broadcastPlan bytes)))
  | accept {payload : Payload} {fetch : Fetch String} {hash : String}
      (settled : fetch.result? = some (.ok hash)) :
    Step m id .proceed (.broadcasting payload fetch) m (.accepted payload hash)
  | reject {payload : Payload} {fetch : Fetch String} {fault : Fault ManagerError}
      (settled : fetch.result? = some (.error fault)) :
    Step m id .proceed (.broadcasting payload fetch) m (.leaving (.error fault))
  | record {payload : Payload} {hash : String} :
    Step m id .proceed (.accepted payload hash)
      { m with wallet := m.wallet.recordOutgoing (payload.sent hash) }
      (.leaving (.ok (payload.sent hash)))
  | idle {r : Outcome ManagerError Transaction} :
    Step m id .proceed (.leaving r) { m with sendPhase := .idle } (.left r)
  | leave {r : Outcome ManagerError Transaction} :
    Step m id .proceed (.left r) { m with sendLine := m.sendLine.leave id } (.finished r)
  | request {member : Nat} {event : Fetch.Event} {payload : Payload} {fetch next : Fetch String}
      {m' : Manager} (moved : m.stepFetch? fetch member event = some (m', next)) :
    Step m id (.request member event) (.broadcasting payload fetch) m'
      (.broadcasting payload next)
  | cancelSigning {job : Signing} {signatures : List Bytes} (down : m.isShutDown = true) :
    Step m id .cancel (.signing job signatures) m (.leaving (.fail .cancelled))
  | cancelBroadcast {payload : Payload} {fetch : Fetch String} (down : m.isShutDown = true) :
    Step m id .cancel (.broadcasting payload fetch) m (.leaving (.fail .cancelled))

namespace Send

theorem step_of_proceed? {m m' : Manager} {id : CallId} {s s' : Send}
    (moved : s.proceed? m id = some (m', s')) : Step m id .proceed s m' s' := by
  cases s with
  | called payload =>
    simp only [proceed?] at moved
    split at moved <;> cases moved
    next down => exact .refuse down
    next up => exact .join (Bool.not_eq_true _ ▸ up)
  | waiting payload =>
    simp only [proceed?] at moved
    split at moved <;> cases moved
    exact .enter ‹_›
  | entered payload =>
    cases moved
    exact .build
  | building payload snapshot =>
    simp only [proceed?] at moved
    split at moved <;> cases moved
    next built => exact .unbuilt built
    next built => exact .nothingToSign built
    next hashes nonempty built => exact .sign built nonempty
  | signing job signatures => cases moved
  | signed job signatures =>
    simp only [proceed?] at moved
    split at moved <;> cases moved
    · exact .count ‹_›
    · exact .miscount ‹_›
  | sealing job signatures =>
    simp only [proceed?] at moved
    split at moved <;> cases moved
    · exact .unsealed ‹_›
    · exact .broadcast ‹_›
  | broadcasting payload fetch =>
    simp only [proceed?, Option.map_eq_some_iff] at moved
    obtain ⟨r, settled, result⟩ := moved
    cases r with
    | ok hash =>
      cases result
      exact .accept settled
    | error fault =>
      cases result
      exact .reject settled
  | accepted payload hash =>
    cases moved
    exact .record
  | leaving r =>
    cases moved
    exact .idle
  | left r =>
    cases moved
    exact .leave
  | finished r => cases moved

theorem step_of_step? {m m' : Manager} {id : CallId} {event : Event} {s s' : Send}
    (moved : s.step? m id event = some (m', s')) : Step m id event s m' s' := by
  cases event with
  | proceed => exact step_of_proceed? moved
  | signed r =>
    cases s <;> try cases moved
    case signing job signatures =>
      simp only [step?] at moved
      split at moved
      next => cases moved
      next each =>
        rw [Bool.not_eq_true] at each
        cases r with
        | error cause =>
          cases moved
          exact .unsigned each
        | ok signature =>
          simp only [receive, List.length_append, List.length_singleton] at moved
          split at moved <;> cases moved
          · exact .signOne each ‹_›
          · exact .signLast each (by omega)
  | signedAll r =>
    cases s <;> try cases moved
    case signing job signatures =>
      simp only [step?] at moved
      split at moved
      next all =>
        cases r with
        | error cause =>
          cases moved
          exact .unsignedAll all
        | ok signatures =>
          cases moved
          exact .signAll all
      next => cases moved
  | request member event =>
    cases s <;> try cases moved
    case broadcasting payload fetch =>
      simp only [step?, Option.map_eq_some_iff] at moved
      obtain ⟨⟨m', next⟩, moved, result⟩ := moved
      cases result
      exact .request moved
  | cancel =>
    cases s <;> try cases moved
    case signing job signatures =>
      simp only [step?] at moved
      split at moved <;> cases moved
      exact .cancelSigning ‹_›
    case broadcasting payload fetch =>
      simp only [step?] at moved
      split at moved <;> cases moved
      exact .cancelBroadcast ‹_›
  | listed r => cases s <;> cases moved

end Send

inductive FeeInquiry.Step (m : Manager) (now : Moment) :
    Event → FeeInquiry → Manager → FeeInquiry → Prop
  | refuse {amount : Amount} {destination : String} (down : m.isShutDown = true) :
    Step m now .proceed (.called amount destination) m (.finished (.fail .cancelled))
  | ask {amount : Amount} {destination : String} {plan : Plan FeeOffer}
      (up : m.isShutDown = false)
      (planned : m.chain.feePlan m.builder m.wallet amount destination now.date = .ok plan) :
    Step m now .proceed (.called amount destination) m (.asking (.ofPlan plan))
  | unplanned {amount : Amount} {destination : String} {cause : ManagerError}
      (up : m.isShutDown = false)
      (planned : m.chain.feePlan m.builder m.wallet amount destination now.date = .error cause) :
    Step m now .proceed (.called amount destination) m (.finished (.fail cause))
  | settle {fetch : Fetch FeeOffer} {r : Outcome ManagerError FeeOffer}
      (settled : fetch.result? = some r) :
    Step m now .proceed (.asking fetch) m (.finished r)
  | request {member : Nat} {event : Fetch.Event} {fetch next : Fetch FeeOffer} {m' : Manager}
      (moved : m.stepFetch? fetch member event = some (m', next)) :
    Step m now (.request member event) (.asking fetch) m' (.asking next)
  | cancel {fetch : Fetch FeeOffer} (down : m.isShutDown = true) :
    Step m now .cancel (.asking fetch) m (.finished (.fail .cancelled))

theorem FeeInquiry.step_of_step? {m m' : Manager} {now : Moment} {event : Event}
    {i i' : FeeInquiry} (moved : i.step? m now event = some (m', i')) :
    FeeInquiry.Step m now event i m' i' := by
  unfold step? at moved
  split at moved
  next =>
    split at moved
    next down =>
      cases moved
      exact .refuse down
    next up =>
      rw [Bool.not_eq_true] at up
      split at moved <;> cases moved
      · exact .ask up ‹_›
      · exact .unplanned up ‹_›
  next =>
    simp only [Option.map_eq_some_iff, Prod.mk.injEq] at moved
    obtain ⟨r, settled, rfl, rfl⟩ := moved
    exact .settle settled
  next =>
    simp only [Option.map_eq_some_iff, Prod.mk.injEq] at moved
    obtain ⟨⟨m', next⟩, moved, rfl, rfl⟩ := moved
    exact .request moved
  next =>
    split at moved <;> cases moved
    exact .cancel ‹_›
  next => cases moved

inductive CountInquiry.Step (m : Manager) :
    Event → CountInquiry → Manager → CountInquiry → Prop
  | refuse {expected : UInt64} (down : m.isShutDown = true) :
    Step m .proceed (.called expected) m (.finished (.fail .cancelled))
  | ask {expected : UInt64} (up : m.isShutDown = false) :
    Step m .proceed (.called expected) m
      (.asking expected (.ofPlan (m.chain.signatureCountPlan m.wallet)))
  | settle {expected : UInt64} {fetch : Fetch UInt64} {r : Outcome ManagerError UInt64}
      (settled : fetch.result? = some r) :
    Step m .proceed (.asking expected fetch) m (.finished (compare expected r))
  | request {expected : UInt64} {member : Nat} {event : Fetch.Event} {fetch next : Fetch UInt64}
      {m' : Manager} (moved : m.stepFetch? fetch member event = some (m', next)) :
    Step m (.request member event) (.asking expected fetch) m' (.asking expected next)
  | cancel {expected : UInt64} {fetch : Fetch UInt64} (down : m.isShutDown = true) :
    Step m .cancel (.asking expected fetch) m (.finished (.fail .cancelled))

theorem CountInquiry.step_of_step? {m m' : Manager} {event : Event} {i i' : CountInquiry}
    (moved : i.step? m event = some (m', i')) : CountInquiry.Step m event i m' i' := by
  unfold step? at moved
  split at moved
  next =>
    split at moved <;> cases moved
    next down => exact .refuse down
    next up => exact .ask (Bool.not_eq_true _ ▸ up)
  next =>
    simp only [Option.map_eq_some_iff, Prod.mk.injEq] at moved
    obtain ⟨r, settled, rfl, rfl⟩ := moved
    exact .settle settled
  next =>
    simp only [Option.map_eq_some_iff, Prod.mk.injEq] at moved
    obtain ⟨⟨m', next⟩, moved, rfl, rfl⟩ := moved
    exact .request moved
  next =>
    split at moved <;> cases moved
    exact .cancel ‹_›
  next => cases moved

inductive TokenSearch.Step (m : Manager) : Event → TokenSearch → Manager → TokenSearch → Prop
  | refuse (down : m.isShutDown = true) :
    Step m .proceed .called m (.finished (.fail .cancelled))
  | ask (up : m.isShutDown = false) (supported : m.chain.supports .tokenFinder = true) :
    Step m .proceed .called m (.asking m.wallet.primaryAddress)
  | unsupported (up : m.isShutDown = false) (lacking : m.chain.supports .tokenFinder = false) :
    Step m .proceed .called m (.finished (.fail (.capabilityNotSupported .tokenFinder)))
  | list {address : String} {found : List (Token × Nat)} :
    Step m (.listed (.ok found)) (.asking address) m (.listed (Account.discovered found))
  | unlisted {address : String} {cause : NetworkError} :
    Step m (.listed (.error cause)) (.asking address) m (.finished (.fail (.network cause)))
  | adopt {tokens : List (Token × Decimal)} :
    Step m .proceed (.listed tokens) { m with wallet := Account.adopt m.wallet tokens }
      (.finished (.ok (tokens.map (·.1))))
  | cancel {address : String} (down : m.isShutDown = true) :
    Step m .cancel (.asking address) m (.finished (.fail .cancelled))

theorem TokenSearch.step_of_step? {m m' : Manager} {event : Event} {i i' : TokenSearch}
    (moved : i.step? m event = some (m', i')) : TokenSearch.Step m event i m' i' := by
  unfold step? at moved
  split at moved
  next =>
    split at moved
    next down =>
      cases moved
      exact .refuse down
    next up =>
      rw [Bool.not_eq_true] at up
      split at moved <;> cases moved
      next supported => exact .ask up supported
      next lacking => exact .unsupported up (Bool.not_eq_true _ ▸ lacking)
  next =>
    cases moved
    exact .list
  next =>
    cases moved
    exact .unlisted
  next =>
    cases moved
    exact .adopt
  next =>
    split at moved <;> cases moved
    exact .cancel ‹_›
  next => cases moved

inductive Call.Step (m : Manager) (now : Moment) (id : CallId) (event : Event) (m' : Manager) :
    Call → Call → Prop
  | refresh {r r' : Refresh} (step : Refresh.Step m now id event r m' r') :
    Step m now id event m' (.refresh r) (.refresh r')
  | send {s s' : Send} (step : Send.Step m id event s m' s') :
    Step m now id event m' (.send s) (.send s')
  | fee {i i' : FeeInquiry} (step : FeeInquiry.Step m now event i m' i') :
    Step m now id event m' (.fee i) (.fee i')
  | signatureCount {i i' : CountInquiry} (step : CountInquiry.Step m event i m' i') :
    Step m now id event m' (.signatureCount i) (.signatureCount i')
  | tokens {i i' : TokenSearch} (step : TokenSearch.Step m event i m' i') :
    Step m now id event m' (.tokens i) (.tokens i')

theorem Call.step_of_step? {m m' : Manager} {now : Moment} {id : CallId} {event : Event}
    {call call' : Call} (moved : call.step? m now id event = some (m', call')) :
    Call.Step m now id event m' call call' := by
  cases call <;>
    simp only [step?, Option.map_eq_some_iff, Prod.mk.injEq] at moved <;>
    obtain ⟨⟨m', next⟩, moved, rfl, rfl⟩ := moved
  case refresh => exact .refresh (Refresh.step_of_step? moved)
  case send => exact .send (Send.step_of_step? moved)
  case fee => exact .fee (FeeInquiry.step_of_step? moved)
  case signatureCount => exact .signatureCount (CountInquiry.step_of_step? moved)
  case tokens => exact .tokens (TokenSearch.step_of_step? moved)

end CoinWallet
