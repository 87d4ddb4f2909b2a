import CoinWallet.Proofs.Session.Course

set_option autoImplicit false

namespace CoinWallet.Answers

/-- The three ways to get signatures: one hash is signed by itself, several go to a signer that
takes them all at once, or one after the other to a signer that does not. -/
inductive Signs (answers : Answers) (payload : Payload) (key : PublicKey) :
    List Bytes → List Bytes → List Deed → Prop
  | one {hash signature : Bytes} (given : answers.sign 0 = .ok signature) :
    Signs answers payload key [hash] [signature] [.sign hash key]
  | all {hashes signatures : List Bytes} (several : 2 ≤ hashes.length)
      (batch : payload.signsAll = true) (given : answers.signAll = .ok signatures) :
    Signs answers payload key hashes signatures [.signAll hashes key]
  | each {hashes signatures : List Bytes} (several : 2 ≤ hashes.length)
      (single : payload.signsAll = false)
      (given : (List.range hashes.length).map answers.sign = signatures.map .ok) :
    Signs answers payload key hashes signatures (hashes.map fun hash => .sign hash key)

variable {answers : Answers} {m : Manager} {payload : Payload} {key : PublicKey} {number : Nat}
  {hashes signatures : List Bytes} {questions : List Deed}

theorem Signs.quiet (signs : answers.Signs payload key hashes signatures questions) :
    Deed.Quiet questions := by
  cases signs <;> simp [Deed.Quiet]

theorem signEach_eq_ok (key : PublicKey) :
    (answers.signEach key number hashes).1 = .ok signatures ↔
      (List.range' number hashes.length).map answers.sign = signatures.map .ok := by
  induction hashes generalizing number signatures with
  | nil =>
    cases signatures <;> simp [signEach]
  | cons hash rest ih =>
    simp only [signEach, List.length_cons, List.range'_succ, List.map_cons]
    cases given : answers.sign number with
    | error cause => cases signatures <;> simp
    | ok signature =>
      cases signatures with
      | nil =>
        cases (answers.signEach key (number + 1) rest).1 <;> simp [Except.map]
      | cons first others =>
        simp only [List.map_cons, List.cons.injEq, Except.ok.injEq, ← ih]
        cases (answers.signEach key (number + 1) rest).1 <;> simp [Except.map]

theorem signEach_quiet : Deed.Quiet (answers.signEach key number hashes).2 := by
  induction hashes generalizing number with
  | nil => simp [signEach, Deed.Quiet]
  | cons hash rest ih =>
    unfold signEach
    cases answers.sign number with
    | error cause => simp [Deed.Quiet]
    | ok signature =>
      intro provider q member
      rcases List.mem_cons.mp member with same | later
      · cases same
      · exact ih provider q later

theorem signEach_deeds_of_ok (given : (answers.signEach key number hashes).1 = .ok signatures) :
    (answers.signEach key number hashes).2 = hashes.map fun hash => .sign hash key := by
  induction hashes generalizing number signatures with
  | nil => rfl
  | cons hash rest ih =>
    unfold signEach at given ⊢
    cases first : answers.sign number with
    | error cause => simp [first] at given
    | ok signature =>
      simp only [first] at given
      cases later : (answers.signEach key (number + 1) rest).1 with
      | error cause => simp [later, Except.map] at given
      | ok others => simp [ih later]

theorem signEach_eq_iff :
    answers.signEach key 0 hashes = (.ok signatures, questions) ↔
      (List.range hashes.length).map answers.sign = signatures.map .ok ∧
        questions = hashes.map fun hash => .sign hash key := by
  rw [List.range_eq_range', ← signEach_eq_ok key]
  constructor
  next =>
    intro same
    have given := congrArg Prod.fst same
    exact ⟨given, (congrArg Prod.snd same).symm.trans (signEach_deeds_of_ok given)⟩
  next =>
    rintro ⟨given, rfl⟩
    exact Prod.ext given (signEach_deeds_of_ok given)

theorem signs_quiet (answers : Answers) (m : Manager) (payload : Payload) (hashes : List Bytes) :
    Deed.Quiet (answers.signs m payload hashes []).2 := by
  unfold signs
  split
  · simp [Deed.Quiet]
  · exact signEach_quiet

theorem signs_of_each (each : (Signing.mk payload m.wallet hashes).asksForAll = false) :
    answers.signs m payload hashes [] = answers.signEach m.wallet.publicKey 0 hashes := by
  simp only [signs, each, Bool.false_eq_true, if_false, List.length_nil, List.drop_zero,
    List.nil_append]
  cases answers.signEach m.wallet.publicKey 0 hashes with
  | mk r deeds => cases r <;> rfl

theorem signs_eq_iff_of_each (each : (Signing.mk payload m.wallet hashes).asksForAll = false) :
    answers.signs m payload hashes [] = (.ok signatures, questions) ↔
      (List.range hashes.length).map answers.sign = signatures.map .ok ∧
        questions = hashes.map fun hash => .sign hash m.wallet.publicKey := by
  rw [signs_of_each each, signEach_eq_iff]

theorem Signs.of_each (some : hashes ≠ [])
    (each : (Signing.mk payload m.wallet hashes).asksForAll = false)
    (given : (List.range hashes.length).map answers.sign = signatures.map .ok) :
    answers.Signs payload key hashes signatures (hashes.map fun hash => .sign hash key) := by
  by_cases several : 2 ≤ hashes.length
  next => exact .each several (by simpa [Signing.asksForAll, several] using each) given
  next =>
    have positive := List.length_pos_iff.mpr some
    obtain ⟨hash, rfl⟩ := List.length_eq_one_iff.mp (show hashes.length = 1 by omega)
    have count : signatures.length = 1 := by simpa using (congrArg List.length given).symm
    obtain ⟨signature, rfl⟩ := List.length_eq_one_iff.mp count
    exact .one (by simpa using given)

theorem signs_eq_iff (some : hashes ≠ []) :
    answers.signs m payload hashes [] = (.ok signatures, questions) ↔
      answers.Signs payload m.wallet.publicKey hashes signatures questions := by
  constructor
  next =>
    intro same
    by_cases all : (Signing.mk payload m.wallet hashes).asksForAll = true
    next =>
      simp only [signs, all, if_true, Prod.mk.injEq] at same
      obtain ⟨given, rfl⟩ := same
      simp only [Signing.asksForAll, Bool.and_eq_true, decide_eq_true_eq] at all
      exact .all all.2 all.1 given
    next =>
      have each := Bool.eq_false_iff.mpr all
      obtain ⟨given, rfl⟩ := (signs_eq_iff_of_each each).mp same
      exact .of_each some each given
  next =>
    intro signs
    cases signs with
    | @one hash _ given =>
      have each : (Signing.mk payload m.wallet [hash]).asksForAll = false := by
        simp [Signing.asksForAll]
      exact (signs_eq_iff_of_each each).mpr ⟨by simpa using given, rfl⟩
    | all several batch given => simp [Answers.signs, Signing.asksForAll, batch, several, given]
    | each several single given =>
      exact (signs_eq_iff_of_each (by simp [Signing.asksForAll, single])).mpr ⟨given, rfl⟩

end CoinWallet.Answers
