import CoinWallet.Proofs.Session.Course

set_option autoImplicit false

namespace CoinWallet.Send

variable {answers : Answers} {m : Manager} {id : CallId} {payload : Payload}

def Completes (answers : Answers) (id : CallId) (m : Manager) (s : Send) : Prop :=
  ∃ deeds m' r, Alone answers id m s deeds m' (.finished r)

theorem Completes.step {next : Manager} {s s' : Send} (event : Event)
    (allowed : answers.Allows event s) (moved : s.step? m id event = some (next, s'))
    (rest : Completes answers id next s') : Completes answers id m s := by
  obtain ⟨deeds, m', r, alone⟩ := rest
  exact ⟨_, m', r, .step allowed moved alone⟩

theorem stepFetch?_of_step? {bytes : Bytes} {a a' : Attempt String} {cursor : Nat}
    {event : Fetch.Event}
    (permitted : Fetch.permits ⟨m.chain.broadcastPlan bytes, .cons a .nil⟩ 0 event = true)
    (moved : a.step? m.chain.providers m.cursor
      (event.on (.broadcast (m.chain.broadcastText bytes))) = some (a', cursor)) :
    m.stepFetch? ⟨m.chain.broadcastPlan bytes, .cons a .nil⟩ 0 event =
      some ({ m with cursor := cursor }, ⟨m.chain.broadcastPlan bytes, .cons a' .nil⟩) := by
  rw [Manager.stepFetch?, Fetch.step?, if_pos permitted]
  simp only [Attempts.step?, Chain.broadcastPlan, moved, Option.map_some]

theorem completes_request {bytes : Bytes} {a a' : Attempt String} {cursor : Nat}
    (event : Fetch.Event)
    (permitted : Fetch.permits ⟨m.chain.broadcastPlan bytes, .cons a .nil⟩ 0 event = true)
    (allowed : answers.Allows (.request 0 event)
      (.broadcasting payload ⟨m.chain.broadcastPlan bytes, .cons a .nil⟩))
    (moved : a.step? m.chain.providers m.cursor
      (event.on (.broadcast (m.chain.broadcastText bytes))) = some (a', cursor))
    (rest : Completes answers id { m with cursor := cursor }
      (.broadcasting payload ⟨m.chain.broadcastPlan bytes, .cons a' .nil⟩)) :
    Completes answers id m
      (.broadcasting payload ⟨m.chain.broadcastPlan bytes, .cons a .nil⟩) := by
  refine .step (.request 0 event) allowed ?_ rest
  simp only [step?, stepFetch?_of_step? permitted moved, Option.map_some]

variable (answers) (id)

theorem completes_leaving (m : Manager) (r : Outcome ManagerError Transaction) :
    Completes answers id m (.leaving r) := by
  have finished (m : Manager) : Completes answers id m (.finished r) := ⟨[], m, r, .stay m _⟩
  have left (m : Manager) : Completes answers id m (.left r) :=
    .step .proceed trivial rfl (finished _)
  exact .step .proceed trivial rfl (left _)

theorem completes_answered (m : Manager) (bytes : Bytes) (r : Outcome NetworkError String) :
    Completes answers id m
      (.broadcasting payload ⟨m.chain.broadcastPlan bytes, .cons (.answered r) .nil⟩) := by
  cases r with
  | error fault =>
    refine .step .proceed trivial ?_ (completes_leaving answers id m (.error (fault.map .network)))
    simp only [step?, proceed?, result?_single]
    rfl
  | ok hash =>
    have accepted : Completes answers id m (.accepted payload hash) :=
      .step .proceed trivial rfl (completes_leaving answers id _ _)
    refine .step .proceed trivial ?_ accepted
    simp only [step?, proceed?, result?_single]
    rfl

theorem completes_asking (m : Manager) (bytes : Bytes) (first index : Nat) :
    Completes answers id m
      (.broadcasting payload ⟨m.chain.broadcastPlan bytes, .cons (.asking first index) .nil⟩) := by
  let r := answers.broadcast (m.chain.broadcastText bytes) index
  have allowed : answers.Allows (.request 0 (.reply (answers.provider index)))
      (.broadcasting payload ⟨m.chain.broadcastPlan bytes, .cons (.asking first index) .nil⟩) := by
    intro q first' index' member
    cases List.mem_singleton.mp member
    rfl
  have replied : Attempt.step? m.chain.providers m.cursor
      (Fetch.Event.on (.broadcast (m.chain.broadcastText bytes)) (.reply (answers.provider index)))
      (.asking first index) = some (.receive first index r, m.cursor) := by
    simp only [Fetch.Event.on, Query.settle_broadcast]
    rfl
  refine completes_request (.reply (answers.provider index)) rfl allowed replied ?_
  unfold Attempt.receive
  split
  next cause failed =>
    by_cases more : index + 1 < m.chain.providers
    next =>
      have gaveUp : Attempt.step? m.chain.providers m.cursor
          (Fetch.Event.on (.broadcast (m.chain.broadcastText bytes)) .move)
          (.refused first index cause) =
            some (.asking first (index + 1), Attempt.exchange m.cursor index (index + 1)) := by
        simp [Fetch.Event.on, Attempt.step?, Attempt.giveUp, more]
      exact completes_request .move rfl trivial gaveUp (completes_asking _ bytes first (index + 1))
    next =>
      have gaveUp : Attempt.step? m.chain.providers m.cursor
          (Fetch.Event.on (.broadcast (m.chain.broadcastText bytes)) .move)
          (.refused first index cause) =
            some (.answered (.fail (.allProvidersFailed (index + 1 - first) cause)),
              Attempt.exchange m.cursor index 0) := by
        simp [Fetch.Event.on, Attempt.step?, Attempt.giveUp, more]
      exact completes_request .move rfl trivial gaveUp (completes_answered answers id _ bytes _)
  next => exact completes_answered answers id _ bytes r
termination_by m.chain.providers - index
decreasing_by omega

theorem completes_sealing (m : Manager) (job : Signing) (signatures : List Bytes) :
    Completes answers id m (.sealing job signatures) := by
  cases built : m.builder.buildForSend job.payload.transaction job.snapshot signatures with
  | error cause =>
    refine .step .proceed trivial ?_ (completes_leaving answers id m (.fail (.build cause)))
    simp only [step?, proceed?, built]
  | ok bytes =>
    have begun : Attempt.step? m.chain.providers m.cursor
        (Fetch.Event.on (.broadcast (m.chain.broadcastText bytes)) .start) .waiting =
          some (.asking (min m.cursor (m.chain.providers - 1))
            (min m.cursor (m.chain.providers - 1)), m.cursor) := rfl
    have waiting : Completes answers id m
        (.broadcasting job.payload ⟨m.chain.broadcastPlan bytes, .cons .waiting .nil⟩) :=
      completes_request .start rfl trivial begun (completes_asking answers id _ bytes _ _)
    refine .step .proceed trivial ?_ waiting
    simp only [step?, proceed?, built]
    rfl

theorem completes_signed (m : Manager) (job : Signing) (signatures : List Bytes) :
    Completes answers id m (.signed job signatures) := by
  by_cases right : signatures.length = job.hashes.length
  next =>
    have sealing := completes_sealing answers id { m with sendPhase := .broadcasting } job signatures
    refine .step .proceed trivial ?_ sealing
    simp only [step?, proceed?, right, if_true]
  next =>
    have leaving := completes_leaving answers id m (.fail (.signing
      (.unexpectedSignatureCount job.hashes.length signatures.length)))
    refine .step .proceed trivial ?_ leaving
    simp only [step?, proceed?, right, if_false]

theorem completes_signing (m : Manager) (job : Signing) (signatures : List Bytes) :
    Completes answers id m (.signing job signatures) := by
  by_cases all : job.asksForAll = true
  next =>
    cases given : answers.signAll with
    | error cause =>
      have leaving := completes_leaving answers id m (.fail (.signing cause))
      refine .step (.signedAll (.error cause)) given.symm ?_ leaving
      simp only [step?, all, if_true, receiveAll]
    | ok signatures =>
      refine .step (.signedAll (.ok signatures)) given.symm ?_
        (completes_signed answers id m job signatures)
      simp only [step?, all, if_true, receiveAll]
  next =>
    cases given : answers.sign signatures.length with
    | error cause =>
      have leaving := completes_leaving answers id m (.fail (.signing cause))
      refine .step (.signed (.error cause)) given.symm ?_ leaving
      simp [step?, receive, all]
    | ok signature =>
      by_cases more : signatures.length + 1 < job.hashes.length
      next =>
        refine .step (.signed (.ok signature)) given.symm ?_
          (completes_signing m job (signatures ++ [signature]))
        simp [step?, receive, all, more]
      next =>
        refine .step (.signed (.ok signature)) given.symm ?_
          (completes_signed answers id m job (signatures ++ [signature]))
        simp [step?, receive, all, more]
termination_by job.hashes.length - signatures.length
decreasing_by
  simp only [List.length_append, List.length_singleton]
  omega

theorem completes_called (free : m.sendLine.callers = []) :
    Completes answers id m (.called payload) := by
  have building (m : Manager) : Completes answers id m (.building payload m.wallet) := by
    cases built : m.builder.buildForSign payload.transaction m.wallet with
    | error cause =>
      refine .step .proceed trivial ?_ (completes_leaving answers id m (.fail (.build cause)))
      simp only [step?, proceed?, built]
    | ok hashes =>
      cases hashes with
      | nil =>
        refine .step .proceed trivial ?_ (completes_leaving answers id m (.fail (.build .nothingToSign)))
        simp only [step?, proceed?, built]
      | cons hash rest =>
        have signing := completes_signing answers id { m with sendPhase := .signing }
          ⟨payload, m.wallet, hash :: rest⟩ []
        refine .step .proceed trivial ?_ signing
        simp only [step?, proceed?, built]
  have entered (m : Manager) : Completes answers id m (.entered payload) :=
    .step .proceed trivial rfl (building { m with sendPhase := .building })
  by_cases down : m.isShutDown = true
  next =>
    refine .step .proceed trivial ?_ ⟨[], m, .fail .cancelled, .stay m _⟩
    simp only [step?, proceed?, down, if_true]
  next =>
    have turn : (m.sendLine.join id).isHeldBy id = true := by
      simp [Line.isHeldBy, Line.holder?, Line.join, free]
    have waiting : Completes answers id { m with sendLine := m.sendLine.join id }
        (.waiting payload) := by
      refine .step .proceed trivial ?_ (entered { m with sendLine := m.sendLine.join id })
      simp only [step?, proceed?, turn, if_true]
    refine .step .proceed trivial ?_ waiting
    simp [step?, proceed?, down]

end CoinWallet.Send
