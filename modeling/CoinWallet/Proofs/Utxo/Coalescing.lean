import CoinWallet.Proofs.Utxo.Holdings

set_option autoImplicit false

namespace CoinWallet.AddressInfo

/-- A report joins those of its transaction that came first, if ASCII tells its hash from their
stored one in no other way than by case; else it starts a group. -/
def place (tx : ReportedTransaction) :
    List (List ReportedTransaction) → List (List ReportedTransaction)
  | [] => [[tx]]
  | group :: rest =>
    if Text.lowersAscii tx.hash ∧ ∃ other ∈ group, Text.lower other.hash = Text.lower tx.hash then
      (group ++ [tx]) :: rest
    else group :: place tx rest

def groups (reports : List ReportedTransaction) : List (List ReportedTransaction) :=
  reports.foldl (fun groups tx => place tx groups) []

theorem groups_snoc (reports : List ReportedTransaction) (tx : ReportedTransaction) :
    groups (reports ++ [tx]) = place tx (groups reports) := by
  simp [groups]

theorem groups_induction {P : List (List ReportedTransaction) → Prop} (nil : P [])
    (place : ∀ tx gs, P gs → P (place tx gs)) (reports : List ReportedTransaction) :
    P (groups reports) := by
  induction reports using List.reverseRecOn with
  | nil => exact nil
  | append_singleton reports tx ih =>
    rw [groups_snoc]
    exact place tx _ ih

theorem flatten_place_perm (tx : ReportedTransaction) (gs : List (List ReportedTransaction)) :
    (place tx gs).flatten.Perm (gs.flatten ++ [tx]) := by
  induction gs with
  | nil => simp [place]
  | cons group rest ih =>
    rw [place]
    split
    next =>
      simp only [List.flatten_cons, List.append_assoc]
      exact List.perm_append_comm.append_left group
    next =>
      simp only [List.flatten_cons, List.append_assoc]
      exact ih.append_left group

theorem flatten_groups_perm (reports : List ReportedTransaction) :
    (groups reports).flatten.Perm reports := by
  induction reports using List.reverseRecOn with
  | nil => rfl
  | append_singleton reports tx ih =>
    rw [groups_snoc]
    exact (flatten_place_perm tx _).trans (ih.append_right [tx])

theorem forall_mem_place {tx : ReportedTransaction} {gs : List (List ReportedTransaction)}
    {p : ReportedTransaction → Prop} :
    (∀ group ∈ place tx gs, ∀ other ∈ group, p other) ↔
      (∀ group ∈ gs, ∀ other ∈ group, p other) ∧ p tx := by
  have all (list : List (List ReportedTransaction)) :
      (∀ group ∈ list, ∀ other ∈ group, p other) ↔ ∀ other ∈ list.flatten, p other :=
    List.forall_mem_flatten.symm
  rw [all, all, ← List.forall_mem_singleton (p := p), ← List.forall_mem_append]
  simp only [(flatten_place_perm tx gs).mem_iff]

structure EntryOf (group : List ReportedTransaction) (entry : ReportedTransaction) : Prop where
  reported : group ≠ []
  hashes : ∀ tx ∈ group, Text.lower tx.hash = entry.hash
  change : Decimal.sum? (group.map (·.balanceChange)) = some entry.balanceChange

theorem EntryOf.found_iff {group : List ReportedTransaction} {entry : ReportedTransaction}
    (of : EntryOf group entry) (tx : ReportedTransaction) :
    Text.asciiFold entry.hash = Text.asciiFold tx.hash ↔
      Text.lowersAscii tx.hash ∧ ∃ other ∈ group, Text.lower other.hash = Text.lower tx.hash := by
  obtain ⟨first, member⟩ := List.exists_mem_of_ne_nil group of.reported
  rw [← of.hashes first member, Text.asciiFold_lower_eq_iff, of.hashes first member]
  constructor
  next =>
    rintro ⟨plain, same⟩
    exact ⟨plain, first, member, (of.hashes first member).trans same.symm⟩
  next =>
    rintro ⟨plain, other, present, same⟩
    exact ⟨plain, same.symm.trans (of.hashes other present)⟩

theorem EntryOf.snoc {group : List ReportedTransaction} {known tx entry : ReportedTransaction}
    (of : EntryOf group known) (same : Text.lower tx.hash = known.hash)
    (combined : combine? known tx = some entry) : EntryOf (group ++ [tx]) entry := by
  simp only [combine?, Option.bind_eq_bind, Option.bind_eq_some_iff] at combined
  obtain ⟨change, added, combined⟩ := combined
  cases combined
  constructor
  · simp
  · intro other member
    rcases List.mem_append.mp member with former | last
    · exact of.hashes other former
    · rw [List.mem_singleton.mp last, same]
  · have sum := of.change
    simp only [Decimal.sum?] at sum ⊢
    simp [sum, added]

theorem entryOf_singleton (tx : ReportedTransaction) :
    EntryOf [tx] { tx with hash := Text.lower tx.hash } where
  reported := by simp
  hashes := by simp
  change := rfl

theorem forall₂_addReport? {gs : List (List ReportedTransaction)}
    {history next : List ReportedTransaction} {tx : ReportedTransaction}
    (entries : List.Forall₂ EntryOf gs history) (added : addReport? tx history = some next) :
    List.Forall₂ EntryOf (place tx gs) next := by
  induction entries generalizing next with
  | nil =>
    cases added
    exact .cons (entryOf_singleton tx) .nil
  | @cons group known gs history here rest ih =>
    have found := here.found_iff tx
    simp only [addReport?, Text.sameIgnoringCase_iff] at added
    rw [place]
    by_cases same : Text.asciiFold known.hash = Text.asciiFold tx.hash
    next =>
      obtain ⟨_, other, member, lower⟩ := found.mp same
      rw [if_pos same] at added
      obtain ⟨entry, combined, rfl⟩ := Option.map_eq_some_iff.mp added
      rw [if_pos (found.mp same)]
      exact .cons (here.snoc (lower.symm.trans (here.hashes other member)) combined) rest
    next =>
      rw [if_neg same] at added
      obtain ⟨later, there, rfl⟩ := Option.map_eq_some_iff.mp added
      rw [if_neg (mt found.mpr same)]
      exact .cons here (ih there)

theorem forall₂_groups {reports history : List ReportedTransaction}
    (found : reports.foldlM (fun txs tx => addReport? tx txs) [] = some history) :
    List.Forall₂ EntryOf (groups reports) history := by
  induction reports using List.reverseRecOn generalizing history with
  | nil =>
    cases found
    exact .nil
  | append_singleton reports tx ih =>
    rw [List.foldlM_append, Option.bind_eq_bind, Option.bind_eq_some_iff] at found
    obtain ⟨former, before, added⟩ := found
    rw [groups_snoc]
    exact forall₂_addReport? (ih before) (by simpa using added)

def HasRoom (group : List ReportedTransaction) : Prop :=
  ∃ change, Decimal.sum? (group.map (·.balanceChange)) = some change

theorem HasRoom.left {group : List ReportedTransaction} {tx : ReportedTransaction}
    (room : HasRoom (group ++ [tx])) : HasRoom group := by
  obtain ⟨change, sum⟩ := room
  rw [Decimal.sum?, List.map_append, List.foldlM_append, Option.bind_eq_bind,
    Option.bind_eq_some_iff] at sum
  obtain ⟨former, before, _⟩ := sum
  exact ⟨former, before⟩

theorem hasRoom_of_place {tx : ReportedTransaction} {gs : List (List ReportedTransaction)}
    (room : ∀ group ∈ place tx gs, HasRoom group) : ∀ group ∈ gs, HasRoom group := by
  induction gs with
  | nil => simp
  | cons group rest ih =>
    rw [place] at room
    split at room
    next =>
      obtain ⟨here, there⟩ := List.forall_mem_cons.mp room
      exact List.forall_mem_cons.mpr ⟨here.left, there⟩
    next =>
      obtain ⟨here, there⟩ := List.forall_mem_cons.mp room
      exact List.forall_mem_cons.mpr ⟨here, ih there⟩

theorem exists_addReport? {gs : List (List ReportedTransaction)}
    {history : List ReportedTransaction} {tx : ReportedTransaction}
    (entries : List.Forall₂ EntryOf gs history) (room : ∀ group ∈ place tx gs, HasRoom group) :
    ∃ next, addReport? tx history = some next := by
  induction entries with
  | nil => exact ⟨_, rfl⟩
  | @cons group known gs history here rest ih =>
    have found := here.found_iff tx
    simp only [addReport?, Text.sameIgnoringCase_iff]
    rw [place] at room
    by_cases same : Text.asciiFold known.hash = Text.asciiFold tx.hash
    next =>
      rw [if_pos (found.mp same)] at room
      obtain ⟨change, sum⟩ := room (group ++ [tx]) List.mem_cons_self
      have former := here.change
      simp only [Decimal.sum?] at former sum
      have added : known.balanceChange.add? tx.balanceChange = some change := by
        simpa [former] using sum
      simp [same, combine?, added]
    next =>
      rw [if_neg (mt found.mpr same)] at room
      obtain ⟨later, there⟩ := ih (List.forall_mem_cons.mp room).2
      simp [same, there]

theorem exists_history_iff (reports : List ReportedTransaction) :
    (∃ history, reports.foldlM (fun txs tx => addReport? tx txs) [] = some history) ↔
      ∀ group ∈ groups reports, HasRoom group := by
  constructor
  next =>
    rintro ⟨history, found⟩ group listed
    obtain ⟨entry, _, of⟩ := exists_mem_of_mem (forall₂_groups found) listed
    exact ⟨_, of.change⟩
  next =>
    intro room
    induction reports using List.reverseRecOn with
    | nil => exact ⟨[], rfl⟩
    | append_singleton reports tx ih =>
      rw [groups_snoc] at room
      obtain ⟨history, found⟩ := ih (hasRoom_of_place room)
      obtain ⟨next, added⟩ := exists_addReport? (forall₂_groups found) room
      exact ⟨next, by simp [found, added]⟩

-- all reports of the first group stand so to all of the second one
def Across (r : ReportedTransaction → ReportedTransaction → Prop)
    (first second : List ReportedTransaction) : Prop :=
  ∀ a ∈ first, ∀ b ∈ second, r a b

-- of one lower case, but the second one is not found by it
def Missed (a b : ReportedTransaction) : Prop :=
  Text.lower a.hash = Text.lower b.hash → Text.lowersAscii b.hash = false

theorem across_place {r : ReportedTransaction → ReportedTransaction → Prop}
    {group : List ReportedTransaction} {tx : ReportedTransaction}
    {gs : List (List ReportedTransaction)} :
    (∀ later ∈ place tx gs, Across r group later) ↔
      (∀ later ∈ gs, Across r group later) ∧ ∀ a ∈ group, r a tx := by
  -- `forall_mem_place` asks for the reports of the later groups first
  have swap (later : List ReportedTransaction) :
      Across r group later ↔ ∀ b ∈ later, ∀ a ∈ group, r a b := by
    constructor
    next => exact fun all b reported a present => all a present b reported
    next => exact fun all a present b reported => all b reported a present
  simp only [swap, forall_mem_place]

theorem missed_place {tx : ReportedTransaction} {gs : List (List ReportedTransaction)}
    (missed : gs.Pairwise (Across Missed)) : (place tx gs).Pairwise (Across Missed) := by
  induction gs with
  | nil => simp [place]
  | cons group rest ih =>
    obtain ⟨here, there⟩ := List.pairwise_cons.mp missed
    rw [place]
    split
    next joins =>
      obtain ⟨_, other, member, lower⟩ := joins
      refine .cons ?_ there
      intro later listed a present b reported same
      rcases List.mem_append.mp present with former | last
      next => exact here later listed a former b reported same
      next =>
        rw [List.mem_singleton.mp last] at same
        exact here later listed other member b reported (lower.trans same)
    next alone =>
      refine .cons (across_place.mpr ⟨here, ?_⟩) (ih there)
      intro a present same
      by_contra plain
      exact alone ⟨by simpa using plain, a, present, same⟩

theorem missed_groups (reports : List ReportedTransaction) :
    (groups reports).Pairwise (Across Missed) :=
  groups_induction .nil (fun _ _ => missed_place) reports

-- what has joined the group is found by its first report
def Found (group : List ReportedTransaction) : Prop :=
  group.Pairwise fun _ b => Text.lowersAscii b.hash = true

theorem found_place {tx : ReportedTransaction} {gs : List (List ReportedTransaction)}
    (found : ∀ group ∈ gs, Found group) : ∀ group ∈ place tx gs, Found group := by
  induction gs with
  | nil => simp [place, Found]
  | cons group rest ih =>
    obtain ⟨here, there⟩ := List.forall_mem_cons.mp found
    rw [place]
    split
    next joins =>
      rw [List.forall_mem_cons]
      constructor
      next => simpa [Found, List.pairwise_append, joins.1] using here
      next => exact there
    next =>
      rw [List.forall_mem_cons]
      exact ⟨here, ih there⟩

theorem found_groups (reports : List ReportedTransaction) :
    ∀ group ∈ groups reports, Found group :=
  groups_induction (P := fun gs => ∀ group ∈ gs, Found group) (by simp) (fun _ _ => found_place)
    reports

theorem distinct_place {tx : ReportedTransaction} {gs : List (List ReportedTransaction)} :
    (place tx gs).Pairwise (Across fun a b => Text.lower a.hash ≠ Text.lower b.hash) ↔
      gs.Pairwise (Across fun a b => Text.lower a.hash ≠ Text.lower b.hash) ∧
        ∀ group ∈ gs, ∀ a ∈ group,
          Text.lower a.hash = Text.lower tx.hash → Text.lowersAscii tx.hash = true := by
  induction gs with
  | nil => simp [place]
  | cons group rest ih =>
    rw [place]
    split
    next joins =>
      obtain ⟨plain, other, member, lower⟩ := joins
      simp only [List.pairwise_cons, plain, implies_true, and_true]
      apply and_congr_left'
      constructor
      next =>
        intro distinct later listed a present
        exact distinct later listed a (List.mem_append_left _ present)
      next =>
        intro distinct later listed a present b reported
        rcases List.mem_append.mp present with former | last
        next => exact distinct later listed a former b reported
        next =>
          rw [List.mem_singleton.mp last, ← lower]
          exact distinct later listed other member b reported
    next alone =>
      have fresh : (∀ a ∈ group, Text.lower a.hash ≠ Text.lower tx.hash) ↔
          ∀ a ∈ group, Text.lower a.hash = Text.lower tx.hash → Text.lowersAscii tx.hash = true := by
        constructor
        next => exact fun distinct a present same => absurd same (distinct a present)
        next => exact fun plain a present same => alone ⟨plain a present same, a, present, same⟩
      rw [List.pairwise_cons, List.pairwise_cons, List.forall_mem_cons, ih, across_place, fresh]
      exact and_and_and_comm

theorem distinct_groups (reports : List ReportedTransaction) :
    (groups reports).Pairwise (Across fun a b => Text.lower a.hash ≠ Text.lower b.hash) ↔
      reports.Pairwise fun a b =>
        Text.lower a.hash = Text.lower b.hash → Text.lowersAscii b.hash = true := by
  induction reports using List.reverseRecOn with
  | nil => simp [groups]
  | append_singleton reports tx ih =>
    have members (p : ReportedTransaction → Prop) :
        (∀ group ∈ groups reports, ∀ a ∈ group, p a) ↔ ∀ a ∈ reports, p a := by
      rw [← List.forall_mem_flatten]
      simp only [(flatten_groups_perm reports).mem_iff]
    rw [groups_snoc, distinct_place, ih, List.pairwise_append, members]
    simp

theorem apart_groups (reports : List ReportedTransaction) :
    (groups reports).Pairwise (Across fun a b => a.hash ≠ b.hash) ↔
      reports.Pairwise fun a b => a.hash = b.hash → Text.lowersAscii b.hash = true := by
  have symm : ∀ {a b : ReportedTransaction}, (a.hash = b.hash → Text.lowersAscii b.hash = true) →
      b.hash = a.hash → Text.lowersAscii a.hash = true := by
    intro a b plain same
    rw [← same]
    exact plain same.symm
  have inside : ∀ group ∈ groups reports,
      group.Pairwise fun a b => a.hash = b.hash → Text.lowersAscii b.hash = true := by
    intro group listed
    apply (found_groups reports group listed).imp
    exact fun plain _ => plain
  rw [← (flatten_groups_perm reports).pairwise_iff symm, List.pairwise_flatten,
    and_iff_right inside]
  constructor
  next =>
    exact List.Pairwise.imp fun distinct a present b reported same =>
      absurd same (distinct a present b reported)
  next =>
    intro plain
    apply ((missed_groups reports).and plain).imp
    rintro first second ⟨missed, found⟩ a present b reported same
    have lost := missed a present b reported (congrArg Text.lower same)
    rw [found a present b reported same] at lost
    contradiction

theorem mem_hashes_iff {gs : List (List ReportedTransaction)} {history : List ReportedTransaction}
    (entries : List.Forall₂ EntryOf gs history) (hash : String) :
    hash ∈ history.map (·.hash) ↔ ∃ group ∈ gs, ∃ a ∈ group, Text.lower a.hash = hash := by
  induction entries with
  | nil => simp
  | @cons group entry gs history here _ ih =>
    have first : hash = entry.hash ↔ ∃ a ∈ group, Text.lower a.hash = hash := by
      obtain ⟨report, member⟩ := List.exists_mem_of_ne_nil group here.reported
      constructor
      next => exact fun same => ⟨report, member, (here.hashes report member).trans same.symm⟩
      next =>
        rintro ⟨a, present, rfl⟩
        exact here.hashes a present
    rw [List.map_cons, List.mem_cons, List.exists_mem_cons_iff, ih, first]

theorem nodup_iff_distinct {gs : List (List ReportedTransaction)}
    {history : List ReportedTransaction} (entries : List.Forall₂ EntryOf gs history) :
    (history.map (·.hash)).Nodup ↔
      gs.Pairwise (Across fun a b => Text.lower a.hash ≠ Text.lower b.hash) := by
  induction entries with
  | nil => simp
  | @cons group entry gs history here rest ih =>
    obtain ⟨report, member⟩ := List.exists_mem_of_ne_nil group here.reported
    rw [List.map_cons, List.nodup_cons, List.pairwise_cons, ih, mem_hashes_iff rest]
    apply and_congr_left'
    constructor
    next =>
      intro fresh later listed a present b reported same
      rw [here.hashes a present] at same
      exact fresh ⟨later, listed, b, reported, same.symm⟩
    next =>
      rintro distinct ⟨later, listed, b, reported, same⟩
      exact distinct later listed report member b reported
        ((here.hashes report member).trans same.symm)

/-- The addresses are merged exactly if their balances have a sum and so has each group of reports,
and then each group has one entry with its sum. There are no two entries of one hash exactly if, of
reports whose hashes have one lower case, all but the first have no capitals outside ASCII. Nor are
there two entries for reports of the same hash exactly if a hash that is reported twice has none. -/
theorem one_entry_iff (infos : List AddressInfo) :
    let reports := infos.flatMap (·.history)
    ((∃ merged, merge? infos = some merged) ↔
      (∃ balance, Decimal.sum? (infos.map (·.balance)) = some balance) ∧
        ∀ group ∈ groups reports, HasRoom group) ∧
    ∀ merged, merge? infos = some merged →
      (groups reports).flatten.Perm reports ∧
      List.Forall₂ EntryOf (groups reports) merged.history ∧
      ((merged.history.map (·.hash)).Nodup ↔ reports.Pairwise fun a b =>
        Text.lower a.hash = Text.lower b.hash → Text.lowersAscii b.hash = true) ∧
      ((groups reports).Pairwise (Across fun a b => a.hash ≠ b.hash) ↔ reports.Pairwise fun a b =>
        a.hash = b.hash → Text.lowersAscii b.hash = true) := by
  intro reports
  rw [← exists_history_iff]
  constructor
  next => simp [merge?, foldlM_absorb?, Option.bind_eq_some_iff, empty, Decimal.sum?, reports]
  next =>
    intro merged found
    rw [merge?, foldlM_absorb?, Option.bind_eq_some_iff] at found
    obtain ⟨_, _, found⟩ := found
    obtain ⟨history, folded, rfl⟩ := Option.map_eq_some_iff.mp found
    have entries := forall₂_groups folded
    exact ⟨flatten_groups_perm reports, entries,
      (nodup_iff_distinct entries).trans (distinct_groups reports), apart_groups reports⟩

namespace Sample

def reporting (reports : List ReportedTransaction) : AddressInfo where
  balance := .zero
  unspentOutputs := []
  history := reports
  hasUnconfirmed := some false

-- the second report is found by the first one, whose own hash has a capital of another script
def sent : ReportedTransaction :=
  report "ÉA" (-10 ^ 9) (by decide) none true none none

def received : ReportedTransaction :=
  report "éA" (3 * 10 ^ 8) (by decide) none true none none

theorem one_entry_iff_accent :
    ∃ merged, merge? [reporting [sent], reporting [received]] = some merged ∧
      List.Forall₂ EntryOf [[sent, received]] merged.history ∧
      (merged.history.map (·.hash)).Nodup := by
  have found : merge? [reporting [sent], reporting [received]] =
      some (reporting [report "éa" (-7 * 10 ^ 8) (by decide) none true none none]) := by
    decide +kernel
  obtain ⟨_, entries, nodup, _⟩ := (one_entry_iff _).2 _ found
  have single : groups [sent, received] = [[sent, received]] := by decide +kernel
  rw [← single]
  exact ⟨_, found, entries, nodup.mpr (by decide +kernel)⟩

def accented (change : Int) (fits : change.natAbs < 2 ^ (96 : Nat)) : ReportedTransaction :=
  report "É" change fits none true none none

-- one hash, and two entries
theorem accent_not_coalesced :
    ∃ merged, merge? [reporting [accented (-10 ^ 9) (by decide)],
        reporting [accented (3 * 10 ^ 8) (by decide)]] = some merged ∧
      merged.history.map (fun tx => (tx.hash, tx.balanceChange)) =
        [("é", (accented (-10 ^ 9) (by decide)).balanceChange),
          ("é", (accented (3 * 10 ^ 8) (by decide)).balanceChange)] ∧
      ¬ (merged.history.map (·.hash)).Nodup := by
  have found : merge? [reporting [accented (-10 ^ 9) (by decide)],
      reporting [accented (3 * 10 ^ 8) (by decide)]] =
        some (reporting [report "é" (-10 ^ 9) (by decide) none true none none,
          report "é" (3 * 10 ^ 8) (by decide) none true none none]) := by
    decide +kernel
  exact ⟨_, found, rfl, by decide⟩

end Sample

end CoinWallet.AddressInfo
