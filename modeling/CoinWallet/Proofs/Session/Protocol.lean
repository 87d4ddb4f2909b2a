import CoinWallet.Proofs.History.Reconcile
import CoinWallet.Proofs.Provider.Ending
import CoinWallet.Proofs.Session.Completion
import CoinWallet.Proofs.Session.History
import CoinWallet.Proofs.Session.Signing
import CoinWallet.Proofs.Text.Hex

set_option autoImplicit false

namespace CoinWallet

-- the digits of the bytes, behind a mark where the chain keeps accounts
def Chain.Spells (bytes : Bytes) (text : String) : Chain → Prop
  | utxo _ => Hex.Writes text.toList bytes
  | account _ => ∃ digits, text.toList = '0' :: 'x' :: digits ∧ Hex.Writes digits bytes

theorem Chain.spells_iff {chain : Chain} {bytes : Bytes} {text : String} :
    chain.Spells bytes text ↔ text = chain.broadcastText bytes := by
  have marked : ("0x" ++ Hex.encode bytes).toList = '0' :: 'x' :: (Hex.encode bytes).toList := by
    rw [String.toList_append]
    rfl
  cases chain with
  | utxo c =>
    constructor
    next => exact fun writes => String.toList_inj.mp writes.eq_encode
    next =>
      rintro rfl
      exact Hex.writes_encode bytes
  | account c =>
    constructor
    next =>
      rintro ⟨digits, same, writes⟩
      rw [writes.eq_encode, ← marked] at same
      exact String.toList_inj.mp same
    next =>
      rintro rfl
      exact ⟨_, marked, Hex.writes_encode bytes⟩

def History.Holds (h : History) (hash : String) : Prop :=
  ∃ tx ∈ h, ∃ own, tx.hash = some own ∧
    own.toList.map Char.toLower = hash.toList.map Char.toLower

theorem History.knows_iff {h : History} {hash : String} : h.knows hash = true ↔ h.Holds hash := by
  simp [knows, Holds, Transaction.hasHash_iff, Text.asciiFold]

-- where all letters are ASCII, each of them goes by itself
def Text.Lowers (hash lowered : String) : Prop :=
  lowered = lower hash ∧
    ((∀ c ∈ hash.toList, c.toNat < 128) → lowered.toList = hash.toList.map Char.toLower)

theorem Text.lowers_lower (hash : String) : Lowers hash (lower hash) := by
  refine ⟨rfl, fun ascii => ?_⟩
  rw [lower_of_isAscii (by simpa [isAscii] using ascii), String.toList_ofList, asciiFold]

-- what is made ready to be broadcast, and what its signer was asked
structure Sealed where
  hashes : List Bytes
  signatures : List Bytes
  questions : List Deed
  bytes : Bytes
  text : String

namespace Answers

/-- The payment can be broadcast: all of it is made for one wallet. -/
structure Ready (answers : Answers) (m : Manager) (payload : Payload) (ready : Sealed) : Prop where
  built : m.builder.buildForSign payload.transaction m.wallet = .ok ready.hashes
  some : ready.hashes ≠ []
  signed : answers.Signs payload m.wallet.publicKey ready.hashes ready.signatures ready.questions
  count : ready.signatures.length = ready.hashes.length
  sealed : m.builder.buildForSend payload.transaction m.wallet ready.signatures = .ok ready.bytes
  spelled : m.chain.Spells ready.bytes ready.text

/-- Providers are asked at most when the payment is ready, all for the same, and none after an
answer that another provider would share. -/
def Orderly (answers : Answers) (m : Manager) (payload : Payload) (deeds : List Deed) : Prop :=
  Deed.Quiet deeds ∨
    ∃ ready contacted, answers.Ready m payload ready ∧
      deeds = ready.questions ++
        contacted.map (fun index => .contact index (.broadcast ready.text)) ∧
      ∀ before index after, contacted = before ++ index :: after →
        ¬ Attempt.Retryable (answers.broadcast ready.text index) → after = []

-- from the present provider on, one fails after the other until one gives the hash
def Takes (answers : Answers) (m : Manager) (text hash : String) : Prop :=
  ∃ last, currentProvider m.chain.providers m.cursor ≤ last ∧ last < m.chain.providers ∧
    (∀ index, currentProvider m.chain.providers m.cursor ≤ index → index < last →
      Attempt.Retryable (answers.broadcast text index)) ∧
    answers.broadcast text last = .ok hash

/-- The result is that of the broadcast, and a payment that was made is in the wallet. -/
structure Settles (answers : Answers) (m : Manager) (payload : Payload)
    (r : Outcome ManagerError Transaction) (wallet : Wallet) : Prop where
  sent_iff : ∀ sent, r = .ok sent ↔
    ∃ ready hash lowered, answers.Ready m payload ready ∧ answers.Takes m ready.text hash ∧
      Text.Lowers hash lowered ∧ sent = { payload.transaction with hash := some lowered }
  known : ∀ sent hash, r = .ok sent → sent.hash = some hash → m.wallet.recent.Holds hash →
    wallet = m.wallet
  recorded : ∀ sent hash, r = .ok sent → sent.hash = some hash → ¬ m.wallet.recent.Holds hash →
    wallet =
      { m.wallet with recent := m.wallet.recent ++ [{ sent with status := .unconfirmed }] }
  untouched : ∀ fault, r = .error fault → wallet = m.wallet

variable {answers : Answers} {m : Manager} {payload : Payload} {ready : Sealed}

theorem perform_eq_ok_iff {text hash : String} :
    (Attempt.perform m.chain.providers (answers.broadcast text) m.cursor).1 = .ok hash ↔
      answers.Takes m text hash := by
  have positive := m.chain.providers_pos
  exact Attempt.finish_eq_ok_iff (by omega)

@[simp] theorem settled_deeds (deeds : List Deed) (r : Outcome NetworkError String) :
    (settled m payload deeds r).deeds = deeds := by
  cases r <;> rfl

theorem broadcasting_waiting (answers : Answers) (m : Manager) (payload : Payload)
    (text : String) :
    answers.broadcasting m payload text .waiting =
      let run := Attempt.perform m.chain.providers (answers.broadcast text) m.cursor
      settled m payload (run.2.2.map fun index => .contact index (.broadcast text)) run.1 := rfl

theorem course_of_ready (all : answers.Ready m payload ready) :
    answers.course m payload =
      let run := Attempt.perform m.chain.providers (answers.broadcast ready.text) m.cursor
      (settled m payload (run.2.2.map fun index => .contact index (.broadcast ready.text))
        run.1).after ready.questions := by
  have whole : answers.course m payload = answers.signing m payload ready.hashes [] := by
    obtain ⟨hash, rest, cons⟩ := List.exists_cons_of_ne_nil all.some
    simp only [course, all.built, cons]
  simp only [whole, signing, (signs_eq_iff all.some).mpr all.signed, counting, all.count, if_true,
    sealing, all.sealed, ← Chain.spells_iff.mp all.spelled, broadcasting_waiting]

theorem course_of_not_ready (stuck : ¬ ∃ ready, answers.Ready m payload ready) :
    (∃ fault, (answers.course m payload).result = .error fault) ∧
      (answers.course m payload).wallet = m.wallet ∧
      Deed.Quiet (answers.course m payload).deeds := by
  have silent : Deed.Quiet [] := fun _ _ => List.not_mem_nil
  unfold course
  cases built : m.builder.buildForSign payload.transaction m.wallet with
  | error cause => exact ⟨⟨_, rfl⟩, rfl, silent⟩
  | ok hashes =>
    cases hashes with
    | nil => exact ⟨⟨_, rfl⟩, rfl, silent⟩
    | cons hash rest =>
      simp only [signing]
      have quiet := signs_quiet answers m payload (hash :: rest)
      cases given : answers.signs m payload (hash :: rest) [] with
      | mk r questions =>
        rw [given] at quiet
        cases r with
        | error cause => exact ⟨⟨_, rfl⟩, rfl, quiet⟩
        | ok signatures =>
          simp only [counting, sealing]
          by_cases count : signatures.length = (hash :: rest).length
          next =>
            cases sealed : m.builder.buildForSend payload.transaction m.wallet signatures with
            | error cause =>
              simp only [count, if_true]
              exact ⟨⟨_, rfl⟩, rfl, by simpa [Course.after] using quiet⟩
            | ok bytes =>
              let ready : Sealed :=
                ⟨hash :: rest, signatures, questions, bytes, m.chain.broadcastText bytes⟩
              have signed := (signs_eq_iff (by simp)).mp given
              have all : answers.Ready m payload ready :=
                ⟨built, by simp [ready], signed, count, sealed, Chain.spells_iff.mpr rfl⟩
              exact absurd ⟨ready, all⟩ stuck
          next =>
            simp only [count, if_false]
            exact ⟨⟨_, rfl⟩, rfl, by simpa [Course.after] using quiet⟩

theorem orderly_course (answers : Answers) (m : Manager) (payload : Payload) :
    answers.Orderly m payload (answers.course m payload).deeds := by
  by_cases some : ∃ ready, answers.Ready m payload ready
  next =>
    obtain ⟨ready, all⟩ := some
    let run := Attempt.perform m.chain.providers (answers.broadcast ready.text) m.cursor
    refine .inr ⟨ready, run.2.2, all, ?_, ?_⟩
    · rw [course_of_ready all]
      simp only [Course.after, settled_deeds]
      rfl
    · intro before index after asked final
      exact Attempt.finish_stops asked (Attempt.retryCause?_eq_none_iff.mpr final)
  next => exact .inl (course_of_not_ready some).2.2

theorem Orderly.mono {deeds all : List Deed} (orderly : answers.Orderly m payload all)
    (first : deeds <+: all) : answers.Orderly m payload deeds := by
  obtain ⟨rest, rfl⟩ := first
  rcases orderly with quiet | ⟨ready, contacted, all, split, stops⟩
  · exact .inl fun provider q member => quiet provider q (List.mem_append_left _ member)
  · rcases List.append_eq_append_iff.mp split with ⟨others, asked, _⟩ | ⟨contacts, asked, later⟩
    · refine .inl fun provider q member => all.signed.quiet provider q ?_
      rw [asked]
      exact List.mem_append_left _ member
    · obtain ⟨early, late, rfl, rfl, _⟩ := List.map_eq_append_iff.mp later
      refine .inr ⟨ready, early, all, asked, ?_⟩
      intro before index after within final
      have none := stops before index (after ++ late) (by simp [within]) final
      exact (List.append_eq_nil_iff.mp none).1

theorem course_cases (answers : Answers) (m : Manager) (payload : Payload) :
    (∃ ready hash, answers.Ready m payload ready ∧ answers.Takes m ready.text hash ∧
      (answers.course m payload).result = .ok (payload.sent hash) ∧
      (answers.course m payload).wallet = m.wallet.recordOutgoing (payload.sent hash)) ∨
    (∃ fault, (answers.course m payload).result = .error fault) ∧
      (answers.course m payload).wallet = m.wallet := by
  by_cases some : ∃ ready, answers.Ready m payload ready
  next =>
    obtain ⟨ready, all⟩ := some
    have course := course_of_ready all
    cases last : (Attempt.perform m.chain.providers (answers.broadcast ready.text) m.cursor).1 with
    | ok hash =>
      refine .inl ⟨ready, hash, all, perform_eq_ok_iff.mp last, ?_, ?_⟩ <;>
        simp only [course, Course.after, settled, last]
    | error fault =>
      refine .inr ⟨⟨fault.map .network, ?_⟩, ?_⟩ <;>
        simp only [course, Course.after, settled, last]
  next =>
    obtain ⟨failed, same, _⟩ := course_of_not_ready some
    exact .inr ⟨failed, same⟩

-- the wallet after a payment that was made, by whether it holds the hash of it
theorem course_wallet {sent : Transaction} {hash : String}
    (done : (answers.course m payload).result = .ok sent) (hashed : sent.hash = some hash) :
    (answers.course m payload).wallet =
      { m.wallet with
        recent :=
          if m.wallet.recent.knows hash then m.wallet.recent
          else m.wallet.recent ++ [{ sent with status := .unconfirmed }] } := by
  rcases course_cases answers m payload with
    ⟨_, given, _, _, result, wallet⟩ | ⟨⟨fault, failed⟩, _⟩
  · rw [result, Except.ok.injEq] at done
    subst done
    cases hashed
    rw [wallet, Wallet.recordOutgoing, History.recordOutgoing_eq _ rfl]
  · rw [failed] at done
    cases done

theorem settles_course (answers : Answers) (m : Manager) (payload : Payload) :
    answers.Settles m payload (answers.course m payload).result
      (answers.course m payload).wallet where
  sent_iff := by
    intro sent
    constructor
    next =>
      intro done
      rcases course_cases answers m payload with
        ⟨ready, hash, all, taken, result, _⟩ | ⟨⟨fault, failed⟩, _⟩
      · rw [result, Except.ok.injEq] at done
        exact ⟨ready, hash, _, all, taken, Text.lowers_lower hash, done.symm⟩
      · rw [failed] at done
        cases done
    next =>
      rintro ⟨ready, hash, lowered, all, taken, ⟨rfl, _⟩, rfl⟩
      rw [course_of_ready all]
      simp only [perform_eq_ok_iff.mpr taken, Course.after, settled]
      rfl
  known := by
    intro sent hash done hashed holds
    rw [course_wallet done hashed, if_pos (History.knows_iff.mpr holds)]
  recorded := by
    intro sent hash done hashed fresh
    rw [course_wallet done hashed, if_neg (mt History.knows_iff.mp fresh)]
  untouched := by
    intro fault failed
    rcases course_cases answers m payload with ⟨_, _, _, _, result, _⟩ | ⟨_, same⟩
    · rw [result] at failed
      cases failed
    · exact same

end Answers

namespace Send

/-- A payment that no other call overlaps: whatever is answered, it asks in order, and it gets to an
end that settles it. -/
theorem orderly_settles_of_alone (answers : Answers) {m : Manager} (id : CallId) (payload : Payload)
    (up : m.isShutDown = false) :
    (∀ deeds m' s, Alone answers id m (.called payload) deeds m' s →
      answers.Orderly m payload deeds ∧
        ∀ r, s = .finished r → answers.Settles m payload r m'.wallet) ∧
    (m.sendLine.callers = [] →
      ∃ deeds m' r, Alone answers id m (.called payload) deeds m' (.finished r)) := by
  refine ⟨?_, completes_called answers id⟩
  intro deeds m' s alone
  refine ⟨(Answers.orderly_course answers m payload).mono (alone.isPrefix_deeds up), ?_⟩
  rintro r rfl
  have settles := Answers.settles_course answers m payload
  rwa [alone.course_eq up] at settles

end Send

namespace Sample

def payer : Manager :=
  { manager (.account ⟨.ethereum, {}, ["main", "spare"], false, ethereum_usesAccounts, by simp⟩) with
    builder :=
      { buildForSign := fun _ _ => .ok [[1], [2]]
        buildForSend := fun _ _ signatures => .ok signatures.flatten }
    wallet := .new ⟨0⟩ .ethereum ⟨[7], none⟩ [⟨"home", .standard⟩] }

def bill : Payload :=
  { payload payer.chain with signsAll := true }

-- the first provider times out
def answers : Answers where
  sign := fun _ => .error .userCancelled
  signAll := .ok [[0x0a], [0xff]]
  provider := fun index =>
    .answering (.broadcast "0x0aff") (if index = 0 then .fail (.timeout "late") else .ok "0xAB")

theorem ready : answers.Ready payer bill
    ⟨[[1], [2]], [[0x0a], [0xff]], [.signAll [[1], [2]] ⟨[7], none⟩], [0x0a, 0xff], "0x0aff"⟩ where
  built := rfl
  some := by simp
  signed := .all (by decide) rfl rfl
  count := rfl
  sealed := rfl
  spelled := by
    refine ⟨['0', 'a', 'f', 'f'], by decide, ?_⟩
    exact .cons (by decide) (by decide) (by decide) (.cons (by decide) (by decide) (by decide) .nil)

def asked : List Deed :=
  [.signAll [[1], [2]] ⟨[7], none⟩, .contact 0 (.broadcast "0x0aff"),
    .contact 1 (.broadcast "0x0aff")]

theorem orderly_settles_of_alone_paid :
    ∃ m' sent,
      Send.Alone answers 0 payer (.called bill) asked m' (.finished (.ok sent)) ∧
      answers.Orderly payer bill asked ∧
      sent = { bill.transaction with hash := some "0xab" } ∧
      m'.wallet.recent = [{ sent with status := .unconfirmed }] := by
  have up : payer.isShutDown = false := rfl
  obtain ⟨runs, completes⟩ := Send.orderly_settles_of_alone answers 0 bill up
  obtain ⟨deeds, m', r, alone⟩ := completes rfl
  obtain ⟨orderly, settles⟩ := runs deeds m' _ alone
  specialize settles r rfl
  have run : Attempt.perform payer.chain.providers (answers.broadcast "0x0aff") payer.cursor =
      (.ok "0xAB", 1, [0, 1]) := by
    have late : Attempt.retryCause? (answers.broadcast "0x0aff" 0) = some (.timeout "late") := rfl
    have taken : Attempt.retryCause? (answers.broadcast "0x0aff" 1) = none := rfl
    refine (Attempt.finish_of_more late (by decide)).trans ?_
    rw [Attempt.finish_of_final taken]
    rfl
  have course := alone.course_eq up
  rw [Answers.course_of_ready ready, run] at course
  obtain ⟨rfl, _, rfl⟩ := Course.mk.inj course
  refine ⟨m', _, alone, orderly, rfl, ?_⟩
  rw [settles.recorded _ _ rfl rfl (by rintro ⟨_, member, _⟩; cases member)]
  rfl

end Sample

end CoinWallet
