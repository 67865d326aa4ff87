/-
Module: AiGateway.Accounting.RowBalance
Layer: Accounting
Purpose: The counters of a usage row that the store may delete and a later request may create anew.
  As long as every settlement finds the rows that its reservation wrote, a row holds what is open on
  it.
Trusted boundary: none
Main exports: StandsSince, Timely, TimelySettlements, Balanced, Kept, Journal.balanced,
  settlement_of_missing
-/
import AiGateway.Accounting.SettledOnce

namespace AiGateway.Accounting

open AiGateway.ConditionalStore
open AiGateway.Interaction

/-! ### Lifetimes -/

section Postings

variable {items : List TransactWriteItem} {userId : String} {instant : UInt64}
variable {increments : List (String × Int)} {before after : Table} {key : Key}

/-- What a paired posting adds to a usage row that it writes. -/
theorem Paired.number_of_mem (paired : Paired items userId instant increments)
    (committed : Committed usageTable before items after)
    (written : key ∈ items.map TransactWriteItem.key) (usage : IsUsageWindow key.sort)
    {name : String} (counter : name ∈ counterAttributes) :
    after.number key name = before.number key name + amountFor name increments := by
  rw [paired.number committed counter usage, paired.amountIn,
    if_pos ((paired.mem_keys usage).mp written)]

/-- A paired posting writes a usage row by an update. -/
theorem Paired.update_of_mem (paired : Paired items userId instant increments)
    (written : key ∈ items.map TransactWriteItem.key) (usage : IsUsageWindow key.sort) :
    ∃ update, .update update ∈ items ∧ update.key = key ∧ update.increments = increments := by
  obtain ⟨daily, weekly, others, rfl, ⟨_, dailyIncrements, _⟩, ⟨_, weeklyIncrements, _⟩, rest⟩ :=
    paired
  obtain ⟨write, member, rfl⟩ := List.mem_map.mp written
  rcases List.mem_cons.mp member with rfl | member
  · exact ⟨daily, List.mem_cons_self, rfl, dailyIncrements⟩
  rcases List.mem_cons.mp member with rfl | member
  · exact ⟨weekly, List.mem_cons_of_mem _ List.mem_cons_self, rfl, weeklyIncrements⟩
  · exact ((rest write member).1 usage).elim

/-- Every update of a group renews the lifetime of its row. -/
def Renews (items : List TransactWriteItem) : Prop :=
  ∀ update, .update update ∈ items → ∃ ttl : UInt64,
    update.assignments = [(ttlAttribute, numberOf ttl)]

theorem reservation_renews {engineer : AuthenticatedEngineer} {tokenBudget now : UInt64}
    {reservationId : String}
    (built : reservationTransaction engineer tokenBudget now reservationId = .ok items) :
    Renews items := by
  obtain ⟨daily, weekly, dailyBuilt, weeklyBuilt, rfl⟩ := reservationTransaction_eq_ok built
  obtain ⟨_, _, rfl⟩ := reservationUpdate_eq_ok dailyBuilt
  obtain ⟨_, _, rfl⟩ := reservationUpdate_eq_ok weeklyBuilt
  intro update member
  simp only [List.mem_cons, TransactWriteItem.update.injEq, List.not_mem_nil, or_false,
    reduceCtorEq] at member
  rcases member with rfl | rfl <;> exact ⟨_, rfl⟩

theorem usage_renews {jobId userId : String} {tokenCount occurredAt markerTtl : UInt64}
    (built : usageTransaction jobId userId tokenCount occurredAt markerTtl = .ok items) :
    Renews items := by
  obtain ⟨daily, weekly, dailyBuilt, weeklyBuilt, rfl⟩ := usageTransaction_eq_ok built
  obtain ⟨_, _, rfl⟩ := usageUpdate_eq_ok dailyBuilt
  obtain ⟨_, _, rfl⟩ := usageUpdate_eq_ok weeklyBuilt
  intro update member
  simp only [List.mem_cons, TransactWriteItem.update.injEq, List.not_mem_nil, or_false,
    reduceCtorEq] at member
  rcases member with rfl | rfl <;> exact ⟨_, rfl⟩

theorem recording_renews {engineer : AuthenticatedEngineer} {tokenCount now : UInt64}
    {enforceLimit : Bool}
    (built : recordingTransaction engineer tokenCount now enforceLimit = .ok items) :
    Renews items := by
  obtain ⟨daily, weekly, dailyBuilt, weeklyBuilt, rfl⟩ := recordingTransaction_eq_ok built
  obtain ⟨_, _, rfl⟩ := usageUpdate_eq_ok dailyBuilt
  obtain ⟨_, _, rfl⟩ := usageUpdate_eq_ok weeklyBuilt
  intro update member
  simp only [List.mem_cons, TransactWriteItem.update.injEq, List.not_mem_nil, or_false] at member
  rcases member with rfl | rfl <;> exact ⟨_, rfl⟩

/-- A usage row carries a lifetime. -/
def Lives (table : Table) (key : Key) : Prop :=
  ∃ expiry : UInt64, table.cell key ttlAttribute = some (numberOf expiry)

/-- A renewing posting leaves every usage row that it writes with a lifetime. -/
theorem Renews.lives (renews : Renews items) (paired : Paired items userId instant increments)
    (counters : ∀ name ∈ increments.map Prod.fst, name ∈ counterAttributes)
    (committed : Committed usageTable before items after)
    (written : key ∈ items.map TransactWriteItem.key) (usage : IsUsageWindow key.sort) :
    Lives after key := by
  obtain ⟨update, member, rfl, rfl⟩ := paired.update_of_mem written usage
  obtain ⟨ttl, assignments⟩ := renews update member
  refine ⟨ttl, committed.cell_of_assigned member ?_ ?_ ?_⟩
  · simp [assignments]
  · simp [assignments]
  · exact fun incremented => ne_ttl_of_counter (counters _ incremented) rfl

end Postings

/-! ### Timely settlements -/

/-- Since the oldest of the newer entries, the row was never missing: each of them found it, and the
table has it. -/
def StandsSince (newer : List (LogEntry Ticket)) (table : Table) (row : Key) : Prop :=
  table.lookup row ≠ none ∧ ∀ entry ∈ newer, entry.before.lookup row ≠ none

/-- The two usage rows of a reservation have stood since the reservation committed. -/
def Timely (log : List (LogEntry Ticket)) (table : Table)
    (reconciliation : ReservationReconciliation) : Prop :=
  ∃ newer grant older reservationId, log = newer ++ grant :: older ∧
    Reserves reservationId grant ∧
    reconciliation.reservationWindow = reservationWindow reservationId ∧
    StandsSince newer table ⟨reconciliation.userId, reconciliation.dailyWindow⟩ ∧
    StandsSince newer table ⟨reconciliation.userId, reconciliation.weeklyWindow⟩

/-- Every transaction of a reservation job found the two usage rows undeleted. -/
def TimelySettlements (log : List (LogEntry Ticket)) : Prop :=
  ∀ newer entry older, log = newer ++ entry :: older → ∀ reconciliation,
    entry.author.call.job = some reconciliation.job → Timely older entry.before reconciliation

/-- Every settled reservation is the only one under its identifier. -/
def SoleGrants (log : List (LogEntry Ticket)) : Prop :=
  ∀ entry ∈ log, ∀ reconciliation : ReservationReconciliation,
    entry.author.call.job = some reconciliation.job → ∃ reservationId,
      reconciliation.reservationWindow = reservationWindow reservationId ∧
        SoleReservation log reservationId

section Histories

variable {log : List (LogEntry Ticket)} {entry : LogEntry Ticket}

theorem TimelySettlements.tail (timely : TimelySettlements (entry :: log)) :
    TimelySettlements log := by
  intro newer other older cut
  subst cut
  exact timely (entry :: newer) other older rfl

theorem SoleGrants.tail (sole : SoleGrants (entry :: log)) : SoleGrants log := by
  intro other member reconciliation processes
  obtain ⟨reservationId, named, alone⟩ :=
    sole other (List.mem_cons_of_mem _ member) reconciliation processes
  exact ⟨reservationId, named, (List.pairwise_cons.mp alone).2⟩

/-! ### What is open on a row -/

/-- The entry opens a budget on the row. -/
def Opens (row : Key) (entry : LogEntry Ticket) (reservationId : String) (tokenBudget : UInt64) :
    Prop :=
  row ∈ entry.items.map TransactWriteItem.key ∧ ∃ engineer now,
    reservationTransaction engineer tokenBudget now reservationId = .ok entry.items

/-- The entry is made by a call that settles the reservation. -/
def Settles (userId reservationId : String) (entry : LogEntry Ticket) : Prop :=
  ∃ reconciliation : ReservationReconciliation,
    entry.author.call.job = some reconciliation.job ∧ reconciliation.userId = userId ∧
      reconciliation.reservationWindow = reservationWindow reservationId

/-- Every budget that was opened on the row, and neither settled nor lost with a deleted row since,
is among the open ones. -/
def Kept (row : Key) (log : List (LogEntry Ticket)) (opened : List (String × UInt64)) : Prop :=
  ∀ newer grant older reservationId tokenBudget, log = newer ++ grant :: older →
    Opens row grant reservationId tokenBudget →
    (∀ entry ∈ newer, entry.before.lookup row ≠ none ∧
      ¬ Settles row.partition reservationId entry) →
    (reservationId, tokenBudget) ∈ opened

/-- The counters of a row against the budgets that are open on it. -/
structure Balanced (table : Table) (row : Key) (opened : List (String × UInt64)) : Prop where
  reserved : table.number row reservedTokensAttribute =
    (opened.map fun pair => (pair.2.toNat : Int)).sum
  count : table.number row tokenCountAttribute =
    table.number row consumedTokensAttribute + table.number row reservedTokensAttribute
  consumed : 0 ≤ table.number row consumedTokensAttribute

variable {row : Key} {opened later : List (String × UInt64)}

/-- One more entry: a row that it found missing has lost what was open on it. -/
theorem Kept.cons (kept : entry.before.lookup row ≠ none → Kept row log opened)
    (own : ∀ reservationId tokenBudget, Opens row entry reservationId tokenBudget →
      (reservationId, tokenBudget) ∈ later)
    (others : ∀ pair ∈ opened, ¬ Settles row.partition pair.1 entry → pair ∈ later) :
    Kept row (entry :: log) later := by
  intro newer grant older reservationId tokenBudget cut opens since
  cases newer with
  | nil =>
      cases cut
      exact own reservationId tokenBudget opens
  | cons newest newer =>
      obtain ⟨rfl, rfl⟩ := List.cons.inj cut
      obtain ⟨stood, unsettled⟩ := since entry List.mem_cons_self
      apply others (reservationId, tokenBudget) _ unsettled
      exact kept stood newer grant older reservationId tokenBudget rfl opens fun other member =>
        since other (List.mem_cons_of_mem _ member)

/-- A row that is not there is balanced with nothing open. -/
theorem Balanced.missing {table : Table} (missing : table.lookup row = none) :
    Balanced table row [] := by
  have zero : ∀ name, table.number row name = 0 := by
    intro name
    simp [Table.number, missing, Item.number, Item.absent]
  refine ⟨?_, ?_, ?_⟩
  · rw [zero, List.map_nil, List.sum_nil]
  · rw [zero, zero, zero, add_zero]
  · rw [zero]

theorem Balanced.of_lookup {table other : Table} (balanced : Balanced table row opened)
    (same : other.lookup row = table.lookup row) : Balanced other row opened := by
  have number : ∀ name, other.number row name = table.number row name := by
    intro name
    rw [Table.number, Table.number, same]
  refine ⟨?_, ?_, ?_⟩
  · rw [number, balanced.reserved]
  · rw [number, number, number, balanced.count]
  · rw [number]
    exact balanced.consumed

variable {before after : Table} {items : List TransactWriteItem} {userId : String}
variable {instant : UInt64}

/-- A posting keeps a row balanced when it adds the same to the token count as to the other two
counters together, takes nothing from the consumed tokens, and changes the reserved tokens by what
it opens and closes. -/
theorem Balanced.posted {increments : List (String × Int)} (balanced : Balanced before row opened)
    (paired : Paired items userId instant increments)
    (committed : Committed usageTable before items after)
    (written : row ∈ items.map TransactWriteItem.key) (usage : IsUsageWindow row.sort)
    (split : amountFor tokenCountAttribute increments =
      amountFor consumedTokensAttribute increments + amountFor reservedTokensAttribute increments)
    (consumes : 0 ≤ amountFor consumedTokensAttribute increments)
    (reserves : (later.map fun pair => (pair.2.toNat : Int)).sum =
      (opened.map fun pair => (pair.2.toNat : Int)).sum +
        amountFor reservedTokensAttribute increments) :
    Balanced after row later := by
  have number : ∀ {name}, name ∈ counterAttributes →
      after.number row name = before.number row name + amountFor name increments :=
    fun counter => paired.number_of_mem committed written usage counter
  refine ⟨?_, ?_, ?_⟩
  · rw [number (by simp [counterAttributes]), balanced.reserved, reserves]
  · rw [number (by simp [counterAttributes]), number (by simp [counterAttributes]),
      number (by simp [counterAttributes]), balanced.count, split]
    abel
  · rw [number (by simp [counterAttributes])]
    exact add_nonneg balanced.consumed consumes

/-- What is open on a row that is there, and its lifetime. -/
def Standing (table : Table) (row : Key) (log : List (LogEntry Ticket))
    (opened : List (String × UInt64)) : Prop :=
  table.lookup row ≠ none → Kept row log opened ∧ Lives table row

/-- A settlement closes what its reservation opened, if the row has stood since. -/
private theorem opened_of_timely {between : Table → Table → Prop} {start : Table}
    (deletes : OnlyDeletes between)
    (journal : Journal practice between start after (entry :: log))
    (sole : SoleGrants (entry :: log)) (timely : TimelySettlements (entry :: log))
    (usage : IsUsageWindow row.sort) (written : row ∈ entry.items.map TransactWriteItem.key)
    {reconciliation : ReservationReconciliation}
    (processes : entry.author.call.job = some reconciliation.job)
    (standing : Standing entry.before row log opened) :
    ∃ reservationId, reconciliation.reservationWindow = reservationWindow reservationId ∧
      row.partition = reconciliation.userId ∧
      (reservationId, reconciliation.tokenBudget) ∈ opened ∧ Lives entry.before row := by
  obtain ⟨reservationId, named, alone⟩ :=
    sole entry List.mem_cons_self reconciliation processes
  obtain ⟨newer, grant, older, otherId, rfl, reserves, otherNamed, daily, weekly⟩ :=
    timely [] entry log rfl reconciliation processes
  obtain rfl := reservationWindow_inj.mp (named.symm.trans otherNamed)
  obtain ⟨items, settleable⟩ := journal.posts_of_author (List.nil_append _).symm processes
  have items : entry.items = reconciliationTransaction reconciliation := items
  have granted : Granted (newer ++ grant :: older) reconciliation := settleable
  obtain ⟨granting, member, engineer, now, grantedId, built, user, day, week, window⟩ := granted
  obtain rfl := reservationWindow_inj.mp (named.symm.trans window)
  have before : SoleReservation (newer ++ grant :: older) reservationId :=
    (List.pairwise_cons.mp alone).2
  obtain rfl := before.unique reserves member ⟨engineer, _, now, built⟩
  -- the settlement and its reservation write the same two rows
  have paired := reconciliationTransaction_paired day week window
  rw [items, paired.mem_keys usage] at written
  have opens : Opens row granting reservationId reconciliation.tokenBudget := by
    refine ⟨?_, engineer, now, built⟩
    rw [(reservationTransaction_paired built).mem_keys usage, ← user]
    exact written
  have stands : StandsSince newer entry.before row := by
    obtain ⟨partition, sort⟩ := row
    obtain ⟨rfl, rfl | rfl⟩ := written
    · rwa [← day]
    · rwa [← week]
  obtain ⟨kept, lives⟩ := standing stands.1
  refine ⟨reservationId, named, written.1.symm, ?_, lives⟩
  apply kept newer granting older reservationId reconciliation.tokenBudget rfl opens
  intro other present
  refine ⟨stands.2 other present, ?_⟩
  intro settled
  obtain ⟨settling, otherProcesses, sameUser, sameWindow⟩ := settled
  exact journal.not_settled_before deletes (List.nil_append _).symm alone processes named other
    (List.mem_append_left _ present) settling otherProcesses (sameUser.trans written.1.symm)
    (sameWindow.trans named.symm)

/-- A settlement leaves every lifetime as it is. -/
theorem settlement_keeps_lifetime {reconciliation : ReservationReconciliation}
    (committed : Committed usageTable before (reconciliationTransaction reconciliation) after) :
    after.cell row ttlAttribute = before.cell row ttlAttribute := by
  apply committed.cell_of_unnamed (by decide)
  intro write member _
  simp only [reconciliationTransaction, List.mem_cons, List.not_mem_nil, or_false] at member
  rcases member with rfl | rfl | rfl
  · exact ⟨⟨_, rfl⟩, by simp [TransactWriteItem.names, reconciliationUpdate, ttlAttribute,
      tokenCountAttribute, reservedTokensAttribute, consumedTokensAttribute]⟩
  · exact ⟨⟨_, rfl⟩, by simp [TransactWriteItem.names, reconciliationUpdate, ttlAttribute,
      tokenCountAttribute, reservedTokensAttribute, consumedTokensAttribute]⟩
  · exact ⟨⟨_, rfl⟩, by simp [TransactWriteItem.names, ttlAttribute,
      reservationStatusAttribute, actualTokensAttribute]⟩

/-- A posting of usage leaves open what was open. -/
private theorem kept_of_usage {author : Ticket} (standing : Standing before row log opened)
    (unreserved : ∀ engineer tokenBudget now reservationId,
      reservationTransaction engineer tokenBudget now reservationId ≠ .ok items) :
    Kept row (⟨author, items, before, after⟩ :: log) opened := by
  apply Kept.cons fun present => (standing present).1
  · intro reservationId tokenBudget opens
    obtain ⟨_, engineer, now, built⟩ := opens
    exact (unreserved engineer tokenBudget now reservationId built).elim
  · exact fun pair member _ => member

/-- The row of one usage window along a journal: while settlements are timely it holds what is open
on it, and while it is there it has a lifetime. -/
theorem Journal.balanced {between : Table → Table → Prop} (deletes : OnlyDeletes between)
    {table : Table} (journal : Journal practice between ∅ table log) (sole : SoleGrants log)
    (timely : TimelySettlements log) (usage : IsUsageWindow row.sort) :
    ∃ opened, Balanced table row opened ∧ Standing table row log opened := by
  induction journal with
  | opening =>
      exact ⟨[], Balanced.missing (by simp), fun present => (present (by simp)).elim⟩
  | moved earlier step inductionHypothesis =>
      obtain ⟨opened, balanced, standing⟩ := inductionHypothesis sole timely
      rcases deletes step row with same | gone
      · refine ⟨opened, balanced.of_lookup same, fun present => ?_⟩
        rw [same] at present
        obtain ⟨kept, expiry, lifetime⟩ := standing present
        exact ⟨kept, expiry, by rwa [Table.cell, same]⟩
      · exact ⟨[], Balanced.missing gone, fun present => (present gone).elim⟩
  | @posted before after log author items earlier posting committed inductionHypothesis =>
      obtain ⟨opened, balanced, standing⟩ := inductionHypothesis sole.tail timely.tail
      by_cases written : row ∈ items.map TransactWriteItem.key
      swap
      · have same := committed.lookup_of_notMem written
        refine ⟨opened, balanced.of_lookup same, fun present => ?_⟩
        rw [same] at present
        obtain ⟨kept, expiry, lifetime⟩ := standing present
        refine ⟨Kept.cons (fun _ => kept) ?_ fun pair member _ => member, expiry,
          by rwa [Table.cell, same]⟩
        intro reservationId tokenBudget opens
        obtain ⟨touched, _⟩ := opens
        exact (written touched).elim
      have journal := Journal.posted earlier posting committed
      cases posting with
      | @reservation engineer tokenBudget now reservationId _ undertaken built =>
          have paired := reservationTransaction_paired built
          refine ⟨(reservationId, tokenBudget) :: opened, ?_, fun _ => ⟨?_, ?_⟩⟩
          · apply balanced.posted paired committed written usage
            · simp [tokenCountAttribute, reservedTokensAttribute, consumedTokensAttribute]
            · simp [tokenCountAttribute, reservedTokensAttribute, consumedTokensAttribute]
            · simp [tokenCountAttribute, reservedTokensAttribute]
              abel
          · apply Kept.cons fun present => (standing present).1
            · intro otherId otherBudget opens
              obtain ⟨_, other, otherNow, otherBuilt⟩ := opens
              obtain ⟨rfl, rfl⟩ := reservation_unique built otherBuilt
              exact List.mem_cons_self
            · exact fun pair member _ => List.mem_cons_of_mem _ member
          · exact (reservation_renews built).lives paired (by simp [counterAttributes]) committed
              written usage
      | @settlement reconciliation undertaken granted =>
          obtain ⟨instant, _, _, paired⟩ := granted.paired
          obtain ⟨reservationId, named, owner, member, expiry, lifetime⟩ :=
            opened_of_timely deletes journal sole timely usage written undertaken standing
          refine ⟨opened.erase (reservationId, reconciliation.tokenBudget), ?_,
            fun _ => ⟨?_, expiry, ?_⟩⟩
          · apply balanced.posted paired committed written usage
            · simp [ReservationReconciliation.increments, tokenCountAttribute,
                reservedTokensAttribute, consumedTokensAttribute]
              abel
            · simp [ReservationReconciliation.increments, tokenCountAttribute,
                reservedTokensAttribute, consumedTokensAttribute]
            · have among := ((List.perm_cons_erase member).map fun pair =>
                (pair.2.toNat : Int)).sum_eq
              rw [among]
              simp [ReservationReconciliation.increments, tokenCountAttribute,
                reservedTokensAttribute, consumedTokensAttribute]
          · apply Kept.cons fun present => (standing present).1
            · intro otherId otherBudget opens
              obtain ⟨_, other, now, built⟩ := opens
              exact (reservation_ne_reconciliation built _ rfl).elim
            · intro pair among unsettled
              apply (List.mem_erase_of_ne _).mpr among
              intro same
              subst same
              exact unsettled ⟨reconciliation, undertaken, owner.symm, named⟩
          · rw [settlement_keeps_lifetime committed]
            exact lifetime
      | @usage jobId userId tokenCount occurredAt markerTtl _ undertaken built =>
          have paired := usageTransaction_paired built
          refine ⟨opened, ?_, fun _ => ⟨kept_of_usage standing ?_, ?_⟩⟩
          · apply balanced.posted paired committed written usage
            · simp [tokenCountAttribute, reservedTokensAttribute, consumedTokensAttribute]
            · simp [tokenCountAttribute, consumedTokensAttribute]
            · simp [tokenCountAttribute, reservedTokensAttribute, consumedTokensAttribute]
          · exact fun _ _ _ _ other => reservation_ne_usage other built
          · exact (usage_renews built).lives paired (by simp [counterAttributes]) committed written
              usage
      | @recording engineer tokenCount now enforceLimit _ undertaken built =>
          have paired := recordingTransaction_paired built
          refine ⟨opened, ?_, fun _ => ⟨kept_of_usage standing ?_, ?_⟩⟩
          · apply balanced.posted paired committed written usage
            · simp [tokenCountAttribute, reservedTokensAttribute, consumedTokensAttribute]
            · simp [tokenCountAttribute, consumedTokensAttribute]
            · simp [tokenCountAttribute, reservedTokensAttribute, consumedTokensAttribute]
          · exact fun _ _ _ _ other => reservation_ne_recording other built
          · exact (recording_renews built).lives paired (by simp [counterAttributes]) committed
              written usage

/-- A settlement that finds one of its usage rows missing creates it anew: without a lifetime, and
with the budget taken from reserved tokens that are not there. -/
theorem settlement_of_missing {reconciliation : ReservationReconciliation}
    (granted : Granted log reconciliation)
    (committed : Committed usageTable before (reconciliationTransaction reconciliation) after)
    (written : row ∈ (reconciliationTransaction reconciliation).map TransactWriteItem.key)
    (usage : IsUsageWindow row.sort) (missing : before.lookup row = none) :
    after.lookup row ≠ none ∧ ¬ Lives after row ∧
      after.number row reservedTokensAttribute = -reconciliation.tokenBudget.toNat := by
  obtain ⟨instant, _, _, paired⟩ := granted.paired
  refine ⟨?_, ?_, ?_⟩
  · obtain ⟨write, member, rfl⟩ := List.mem_map.mp written
    obtain ⟨item, _, stored⟩ := committed.lookup_of_mem member
    rw [stored]
    nofun
  · intro lives
    obtain ⟨expiry, lifetime⟩ := lives
    rw [settlement_keeps_lifetime committed, Table.cell, missing] at lifetime
    cases lifetime
  · rw [paired.number_of_mem committed written usage (by simp [counterAttributes])]
    simp [Table.number, missing, Item.number, Item.absent, ReservationReconciliation.increments,
      tokenCountAttribute, reservedTokensAttribute, consumedTokensAttribute]

/-- A counter of a usage row is never a string. -/
theorem Journal.numeric {between : Table → Table → Prop} (deletes : OnlyDeletes between)
    {table : Table} (journal : Journal practice between ∅ table log) {name text : String}
    (counter : name ∈ counterAttributes) (usage : IsUsageWindow row.sort) :
    table.cell row name ≠ some (.S text) := by
  induction journal with
  | opening => simp
  | moved earlier step inductionHypothesis =>
      rcases deletes step row with same | gone
      · rwa [Table.cell, same]
      · simp [Table.cell, gone]
  | posted earlier posting committed inductionHypothesis =>
      intro stored
      obtain ⟨userId, instant, increments, paired, _⟩ := posting.paired
      exact inductionHypothesis
        (committed.numeric (not_reserved_of_counter counter)
          (fun _ member same => paired.counts counter member (same ▸ usage)) stored)

end Histories

end AiGateway.Accounting
