import CoinWallet.Proofs.Provider.Failover
import CoinWallet.Proofs.Session.Step

set_option autoImplicit false

namespace CoinWallet

-- a question to somebody outside; a signer is told the key to sign with
inductive Deed
  | sign (hash : Bytes) (key : PublicKey)
  | signAll (hashes : List Bytes) (key : PublicKey)
  | contact (provider : Nat) (q : Query)

def Deed.Quiet (deeds : List Deed) : Prop :=
  ∀ provider q, .contact provider q ∉ deeds

def Attempts.contact? (providers cursor : Nat) (event : (q : Query) → Attempt.Event q.Reply) :
    {qs : List Query} → (member : Nat) → Attempts qs → Option (Nat × Query)
  | _, _, nil => none
  | q :: _, 0, cons a _ => (a.contact? providers cursor (event q)).map fun index => (index, q)
  | _, member + 1, cons _ rest => rest.contact? providers cursor event member

def Send.deeds (m : Manager) : Event → Send → List Deed
  | .signed _, signing job signatures =>
    (job.hashes[signatures.length]?).toList.map fun hash => .sign hash job.snapshot.publicKey
  | .signedAll _, signing job _ => [.signAll job.hashes job.snapshot.publicKey]
  | .request member event, broadcasting _ fetch =>
    (fetch.attempts.contact? m.chain.providers m.cursor (fun q => event.on q) member).toList.map
      fun (index, q) => .contact index q
  | _, _ => []

/-- How the signer answers for the hash of a number and for all hashes, and what the providers
answer. -/
structure Answers where
  sign : Nat → Except SignerError Bytes
  signAll : Except SignerError (List Bytes)
  provider : Nat → Provider

namespace Answers

-- an event that brings an answer brings one of these
def Allows (answers : Answers) : Event → Send → Prop
  | .signed r, .signing _ signatures => r = answers.sign signatures.length
  | .signedAll r, .signing _ _ => r = answers.signAll
  | .request _ (.reply provider), .broadcasting _ fetch =>
    ∀ q first index, ⟨q, .asking first index⟩ ∈ fetch.attempts.toList →
      provider = answers.provider index
  | _, _ => True

def broadcast (answers : Answers) (text : String) (index : Nat) : Outcome NetworkError String :=
  answers.provider index (.broadcast text)

end Answers

/-- The steps of a payment alone, and what it does in them. -/
inductive Send.Alone (answers : Answers) (id : CallId) :
    Manager → Send → List Deed → Manager → Send → Prop
  | stay (m : Manager) (s : Send) : Alone answers id m s [] m s
  | step {m next m' : Manager} {s s' s'' : Send} {event : Event} {deeds : List Deed}
      (allowed : answers.Allows event s) (moved : s.step? m id event = some (next, s'))
      (rest : Alone answers id next s' deeds m' s'') :
    Alone answers id m s (s.deeds m event ++ deeds) m' s''

structure Course where
  result : Outcome ManagerError Transaction
  wallet : Wallet
  deeds : List Deed

def Course.after (deeds : List Deed) (c : Course) : Course :=
  { c with deeds := deeds ++ c.deeds }

@[simp] theorem Course.after_nil (c : Course) : c.after [] = c := rfl

theorem Course.after_append (c : Course) (first last : List Deed) :
    c.after (first ++ last) = (c.after last).after first := by
  simp [after]

namespace Answers

variable (answers : Answers) (m : Manager) (payload : Payload)

def settled (deeds : List Deed) : Outcome NetworkError String → Course
  | .ok hash => ⟨.ok (payload.sent hash), m.wallet.recordOutgoing (payload.sent hash), deeds⟩
  | .error fault => ⟨.error (fault.map .network), m.wallet, deeds⟩

def broadcasting (text : String) (a : Attempt String) : Course :=
  let run := a.ahead m.chain.providers (answers.broadcast text) m.cursor
  settled m payload (run.2.2.map fun index => .contact index (.broadcast text)) run.1

def sealing (signatures : List Bytes) : Course :=
  match m.builder.buildForSend payload.transaction m.wallet signatures with
  | .error cause => ⟨.fail (.build cause), m.wallet, []⟩
  | .ok bytes => answers.broadcasting m payload (m.chain.broadcastText bytes) .waiting

def counting (hashes signatures : List Bytes) : Course :=
  if signatures.length = hashes.length then answers.sealing m payload signatures
  else
    ⟨.fail (.signing (.unexpectedSignatureCount hashes.length signatures.length)), m.wallet, []⟩

-- the signer is asked for one hash after the other, from the given number on
def signEach (key : PublicKey) : Nat → List Bytes → Except SignerError (List Bytes) × List Deed
  | _, [] => (.ok [], [])
  | number, hash :: rest =>
    match answers.sign number with
    | .error cause => (.error cause, [.sign hash key])
    | .ok signature =>
      let later := signEach key (number + 1) rest
      (later.1.map fun signatures => signature :: signatures, .sign hash key :: later.2)

-- what the signer gives where some signatures are there already
def signs (hashes signatures : List Bytes) : Except SignerError (List Bytes) × List Deed :=
  if (Signing.mk payload m.wallet hashes).asksForAll then
    (answers.signAll, [.signAll hashes m.wallet.publicKey])
  else
    let later := answers.signEach m.wallet.publicKey signatures.length
      (hashes.drop signatures.length)
    (later.1.map fun rest => signatures ++ rest, later.2)

def signing (hashes signatures : List Bytes) : Course :=
  let given := answers.signs m payload hashes signatures
  match given.1 with
  | .error cause => ⟨.fail (.signing cause), m.wallet, given.2⟩
  | .ok signatures => (answers.counting m payload hashes signatures).after given.2

def course : Course :=
  match m.builder.buildForSign payload.transaction m.wallet with
  | .error cause => ⟨.fail (.build cause), m.wallet, []⟩
  | .ok [] => ⟨.fail (.build .nothingToSign), m.wallet, []⟩
  | .ok hashes => answers.signing m payload hashes []

end Answers

inductive Send.Ahead (answers : Answers) (m : Manager) : Send → Course → Prop
  | called {payload : Payload} : Ahead answers m (.called payload) (answers.course m payload)
  | waiting {payload : Payload} : Ahead answers m (.waiting payload) (answers.course m payload)
  | entered {payload : Payload} : Ahead answers m (.entered payload) (answers.course m payload)
  | building {payload : Payload} :
    Ahead answers m (.building payload m.wallet) (answers.course m payload)
  | signing {payload : Payload} {hashes signatures : List Bytes}
      (more : (Signing.mk payload m.wallet hashes).asksForAll = false →
        signatures.length < hashes.length) :
    Ahead answers m (.signing ⟨payload, m.wallet, hashes⟩ signatures)
      (answers.signing m payload hashes signatures)
  | signed {payload : Payload} {hashes signatures : List Bytes} :
    Ahead answers m (.signed ⟨payload, m.wallet, hashes⟩ signatures)
      (answers.counting m payload hashes signatures)
  | sealing {payload : Payload} {hashes signatures : List Bytes} :
    Ahead answers m (.sealing ⟨payload, m.wallet, hashes⟩ signatures)
      (answers.sealing m payload signatures)
  | broadcasting {payload : Payload} {bytes : Bytes} {a : Attempt String} :
    Ahead answers m (.broadcasting payload ⟨m.chain.broadcastPlan bytes, .cons a .nil⟩)
      (answers.broadcasting m payload (m.chain.broadcastText bytes) a)
  | accepted {payload : Payload} {hash : String} :
    Ahead answers m (.accepted payload hash) (Answers.settled m payload [] (.ok hash))
  | leaving {r : Outcome ManagerError Transaction} : Ahead answers m (.leaving r) ⟨r, m.wallet, []⟩
  | left {r : Outcome ManagerError Transaction} : Ahead answers m (.left r) ⟨r, m.wallet, []⟩
  | finished {r : Outcome ManagerError Transaction} :
    Ahead answers m (.finished r) ⟨r, m.wallet, []⟩

@[simp] theorem Query.settle_broadcast {text : String} (r : Outcome NetworkError String) :
    (Query.broadcast text).settle r = r := by
  cases r with
  | ok hash => rfl
  | error fault => cases fault <;> rfl

theorem stepFetch?_single {m m' : Manager} {bytes : Bytes} {a : Attempt String}
    {next : Fetch String} {member : Nat} {event : Fetch.Event}
    (moved : m.stepFetch? ⟨m.chain.broadcastPlan bytes, .cons a .nil⟩ member event =
      some (m', next)) :
    member = 0 ∧ ∃ a' cursor,
      a.step? m.chain.providers m.cursor (event.on (.broadcast (m.chain.broadcastText bytes))) =
          some (a', cursor) ∧
        m' = { m with cursor := cursor } ∧
        next = ⟨m.chain.broadcastPlan bytes, .cons a' .nil⟩ := by
  simp only [Manager.stepFetch?, Fetch.step?, Option.map_eq_some_iff, Prod.mk.injEq] at moved
  obtain ⟨⟨fetch, cursor⟩, moved, rfl, rfl⟩ := moved
  split at moved
  next =>
    simp only [Option.map_eq_some_iff, Prod.mk.injEq] at moved
    obtain ⟨⟨attempts, cursor⟩, moved, rfl, rfl⟩ := moved
    cases member with
    | zero =>
      simp only [Attempts.step?, Chain.broadcastPlan, Option.map_eq_some_iff] at moved
      obtain ⟨⟨a', cursor⟩, moved, rfl, rfl⟩ := moved
      exact ⟨rfl, a', cursor, moved, rfl, rfl⟩
    | succ member => simp [Attempts.step?, Chain.broadcastPlan] at moved
  next => cases moved

theorem result?_single (chain : Chain) (bytes : Bytes) (a : Attempt String) :
    Fetch.result? ⟨chain.broadcastPlan bytes, .cons a .nil⟩ =
      a.result?.map fun r => r.mapError fun fault => fault.map .network := by
  cases a with
  | answered r => cases r <;> rfl
  | _ => rfl

namespace Answers

variable {answers : Answers} {m : Manager} {payload : Payload}

theorem signing_all {hashes signatures : List Bytes}
    (all : (Signing.mk payload m.wallet hashes).asksForAll = true) :
    answers.signing m payload hashes signatures =
      match answers.signAll with
      | .error cause =>
        ⟨.fail (.signing cause), m.wallet, [.signAll hashes m.wallet.publicKey]⟩
      | .ok given =>
        (answers.counting m payload hashes given).after [.signAll hashes m.wallet.publicKey] := by
  simp only [signing, signs, all, if_true]

theorem signing_each {hashes signatures : List Bytes}
    (each : (Signing.mk payload m.wallet hashes).asksForAll = false)
    (more : signatures.length < hashes.length) :
    answers.signing m payload hashes signatures =
      match answers.sign signatures.length with
      | .error cause =>
        ⟨.fail (.signing cause), m.wallet, [.sign hashes[signatures.length] m.wallet.publicKey]⟩
      | .ok signature =>
        (if signatures.length + 1 < hashes.length then
          answers.signing m payload hashes (signatures ++ [signature])
        else answers.counting m payload hashes (signatures ++ [signature])).after
          [.sign hashes[signatures.length] m.wallet.publicKey] := by
  simp only [signing, signs, each, List.drop_eq_getElem_cons more, signEach]
  cases answers.sign signatures.length with
  | error cause => rfl
  | ok signature =>
    simp only [List.length_append, List.length_singleton]
    by_cases last : signatures.length + 1 < hashes.length
    next =>
      cases given : answers.signEach m.wallet.publicKey (signatures.length + 1)
          (hashes.drop (signatures.length + 1)) with
      | mk r deeds => cases r <;> simp [last, Except.map, Course.after]
    next =>
      have empty : hashes.drop (signatures.length + 1) = [] := List.drop_eq_nil_of_le (by omega)
      simp [empty, signEach, last, Except.map, Course.after]

theorem broadcasting_step? {text : String} {a a' : Attempt String} {cursor : Nat}
    {event : Attempt.Event String}
    (moved : a.step? m.chain.providers m.cursor event = some (a', cursor))
    (agrees : Attempt.Agrees (answers.broadcast text) event a) :
    answers.broadcasting m payload text a =
      (answers.broadcasting { m with cursor := cursor } payload text a').after
        ((a.contact? m.chain.providers m.cursor event).toList.map fun index =>
          .contact index (.broadcast text)) := by
  simp only [broadcasting, Attempt.ahead_step? moved agrees, List.map_append]
  cases (a'.ahead m.chain.providers (answers.broadcast text) cursor).1 <;> rfl

theorem agrees_of_allows {bytes : Bytes} {a : Attempt String} {member : Nat} {event : Fetch.Event}
    (allowed : answers.Allows (.request member event)
      (.broadcasting payload ⟨m.chain.broadcastPlan bytes, .cons a .nil⟩)) :
    Attempt.Agrees (answers.broadcast (m.chain.broadcastText bytes))
      (event.on (.broadcast (m.chain.broadcastText bytes))) a := by
  cases event with
  | reply provider =>
    cases a with
    | asking first index =>
      have same : provider = answers.provider index := allowed _ first index List.mem_cons_self
      simp only [Fetch.Event.on, Query.settle_broadcast, same]
      rfl
    | _ => trivial
  | _ => trivial

end Answers

namespace Send

variable {answers : Answers} {m m' : Manager} {id : CallId}

theorem Ahead.step {event : Event} {s s' : Send} {course : Course} (ahead : Ahead answers m s course)
    (up : m.isShutDown = false) (allowed : answers.Allows event s)
    (moved : s.step? m id event = some (m', s')) :
    m'.isShutDown = false ∧
      ∃ rest, Ahead answers m' s' rest ∧ course = rest.after (s.deeds m event) := by
  cases step_of_step? moved with
  | refuse down => rw [up] at down; contradiction
  | join => cases ahead; exact ⟨up, _, .waiting, rfl⟩
  | enter => cases ahead; exact ⟨up, _, .entered, rfl⟩
  | build => cases ahead; exact ⟨up, _, .building, rfl⟩
  | unbuilt built =>
    cases ahead
    refine ⟨up, _, .leaving, ?_⟩
    simp only [Answers.course, built]
    rfl
  | nothingToSign built =>
    cases ahead
    refine ⟨up, _, .leaving, ?_⟩
    simp only [Answers.course, built]
    rfl
  | sign built nonempty =>
    cases ahead
    refine ⟨up, _, .signing fun _ => List.length_pos_iff.mpr nonempty, ?_⟩
    rename_i hashes
    cases hashes with
    | nil => contradiction
    | cons hash rest =>
      simp only [Answers.course, built]
      rfl
  | unsigned each =>
    cases ahead with
    | signing more =>
      refine ⟨up, _, .leaving, ?_⟩
      have inside := more each
      simp only [Answers.signing_each each inside, ← show _ = answers.sign _ from allowed]
      simp [deeds, Course.after, inside]
  | signOne each another =>
    cases ahead with
    | signing more =>
      refine ⟨up, _, .signing fun _ => by simpa using another, ?_⟩
      have inside := more each
      simp only [Answers.signing_each each inside, ← show _ = answers.sign _ from allowed]
      simp [deeds, inside, another]
  | signLast each last =>
    cases ahead with
    | signing more =>
      refine ⟨up, _, .signed, ?_⟩
      have inside := more each
      simp only [Answers.signing_each each inside, ← show _ = answers.sign _ from allowed]
      simp [deeds, inside, Nat.not_lt.mpr last]
  | unsignedAll all =>
    cases ahead
    refine ⟨up, _, .leaving, ?_⟩
    simp only [Answers.signing_all all, ← show _ = answers.signAll from allowed]
    rfl
  | signAll all =>
    cases ahead
    refine ⟨up, _, .signed, ?_⟩
    simp only [Answers.signing_all all, ← show _ = answers.signAll from allowed]
    rfl
  | count right =>
    cases ahead
    refine ⟨up, _, .sealing, ?_⟩
    simp only [Answers.counting, right, if_true]
    rfl
  | miscount wrong =>
    cases ahead
    refine ⟨up, _, .leaving, ?_⟩
    simp only [Answers.counting, wrong, if_false]
    rfl
  | unsealed built =>
    cases ahead
    refine ⟨up, _, .leaving, ?_⟩
    simp only [Answers.sealing, built]
    rfl
  | broadcast built =>
    cases ahead
    refine ⟨up, _, .broadcasting, ?_⟩
    simp only [Answers.sealing, built]
    rfl
  | accept settled =>
    cases ahead with
    | broadcasting =>
      rename_i a
      rw [result?_single] at settled
      cases a <;> try cases settled
      case answered r =>
        cases r <;> cases settled
        exact ⟨up, _, .accepted, rfl⟩
  | reject settled =>
    cases ahead with
    | broadcasting =>
      rename_i a
      rw [result?_single] at settled
      cases a <;> try cases settled
      case answered r =>
        cases r <;> cases settled
        exact ⟨up, _, .leaving, rfl⟩
  | record =>
    cases ahead
    exact ⟨up, _, .leaving, rfl⟩
  | idle =>
    cases ahead
    exact ⟨up, _, .left, rfl⟩
  | leave =>
    cases ahead
    exact ⟨up, _, .finished, rfl⟩
  | request inner =>
    cases ahead with
    | broadcasting =>
      obtain ⟨rfl, a', cursor, stepped, rfl, rfl⟩ := stepFetch?_single inner
      refine ⟨up, _, .broadcasting, ?_⟩
      rw [Answers.broadcasting_step? stepped (Answers.agrees_of_allows allowed)]
      rename_i event _ _ a
      simp only [deeds, Attempts.contact?]
      cases a.contact? m.chain.providers m.cursor
        (event.on (.broadcast (m.chain.broadcastText _))) <;> rfl
  | cancelSigning down => rw [up] at down; contradiction
  | cancelBroadcast down => rw [up] at down; contradiction

theorem Ahead.run {s s' : Send} {deeds : List Deed} {course : Course}
    (ahead : Ahead answers m s course) (up : m.isShutDown = false)
    (alone : Alone answers id m s deeds m' s') :
    ∃ rest, Ahead answers m' s' rest ∧ course = rest.after deeds := by
  induction alone generalizing course with
  | stay m s => exact ⟨course, ahead, rfl⟩
  | step allowed moved rest ih =>
    obtain ⟨still, later, after, rfl⟩ := ahead.step up allowed moved
    obtain ⟨last, ending, rfl⟩ := ih after still
    exact ⟨last, ending, (last.after_append _ _).symm⟩

variable {payload : Payload} {deeds : List Deed}

theorem Alone.isPrefix_deeds {s : Send} (alone : Alone answers id m (.called payload) deeds m' s)
    (up : m.isShutDown = false) : deeds <+: (answers.course m payload).deeds := by
  obtain ⟨rest, _, same⟩ := Ahead.called.run up alone
  rw [same]
  exact List.prefix_append deeds rest.deeds

theorem Alone.course_eq {r : Outcome ManagerError Transaction}
    (alone : Alone answers id m (.called payload) deeds m' (.finished r))
    (up : m.isShutDown = false) : answers.course m payload = ⟨r, m'.wallet, deeds⟩ := by
  obtain ⟨rest, last, same⟩ := Ahead.called.run up alone
  cases last
  rw [same]
  simp [Course.after]

end Send

end CoinWallet
