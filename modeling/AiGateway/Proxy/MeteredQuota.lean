/-
Module: AiGateway.Proxy.MeteredQuota
Layer: Proxy
Purpose: The quota of the whole service.  Every budget is reserved by a request that passed the
  gates, for the engineer that some version of the table lists under its key; so the limits of the
  table bound what an engineer's requests can use.
Trusted boundary: none
Main exports: Deployment.Origin, ListedWithin, QuotaMetered, metered_quota
-/
import AiGateway.Accounting.QuotaCap
import AiGateway.Proxy.ServiceReservations

namespace AiGateway.Proxy

open AiGateway.Accounting
open AiGateway.Admission
open AiGateway.ConditionalStore
open AiGateway.Interaction
open AiGateway.Runs (forall_mem_replace)
open AiGateway.Streaming

section Service

variable {hashApiKey : List Char → String} {fromSlice : List UInt8 → Option Value} {Failure : Type}
variable {conduct : Conduct} {limiter : DelayedLimiter} {maxActiveStreams : UInt64}
variable {process next : ProxyProcess hashApiKey fromSlice Failure}
variable {accounting moved : AccountingConfiguration} {ticket : Ticket}
variable {deployment : Deployment hashApiKey fromSlice Failure}

/-! ### Where calls come from -/

/-- Some request asked for the reservation. -/
def Deployment.Asked (deployment : Deployment hashApiKey fromSlice Failure)
    (engineer : AuthenticatedEngineer) (tokenBudget : UInt64) : Prop :=
  ∃ process ∈ deployment.processes, ∃ request ∈ process.serving.requests,
    request.Asked (.forward (.reserve engineer tokenBudget))

/-- Reservations are asked for by requests; beside them, reservations are reconciled and queued
messages handled. -/
def Deployment.Origin (deployment : Deployment hashApiKey fromSlice Failure) (ticket : Ticket) :
    Prop :=
  (∃ engineer tokenBudget, ticket.call = .reserve engineer tokenBudget ∧
      deployment.Asked engineer tokenBudget) ∨
    (∃ reservation actualTokens, ticket.call = .reconcile reservation actualTokens) ∨
      ∃ message, ticket.call = .processMessage message

/-- What a step of a process starts. -/
theorem ProxyProcess.Step.started (step : process.Step limiter accounting next moved)
    (starts : ticket ∈ moved.started) :
    ticket ∈ accounting.started ∨
      (∃ engineer tokenBudget, ticket.call = .reserve engineer tokenBudget ∧
        ∃ request ∈ next.serving.requests,
          request.Asked (.forward (.reserve engineer tokenBudget))) ∨
        ∃ reservation actualTokens, ticket.call = .reconcile reservation actualTokens := by
  cases step with
  | call number question called asks idle behind fresh =>
      cases List.mem_cons.mp starts with
      | inr old => exact Or.inl old
      | inl new =>
          right
          subst new
          obtain ⟨request, member, _, _, resume, asked⟩ := asks
          cases question with
          | reserve engineer tokenBudget =>
              exact Or.inl ⟨engineer, tokenBudget, (Option.some.inj behind).symm, request, member,
                Or.inr ⟨resume, asked⟩⟩
          | reconcile reservation actualTokens =>
              exact Or.inr ⟨reservation, actualTokens, (Option.some.inj behind).symm⟩
          | _ => cases behind
  | record earlier later slot route reservation chunks failure pump reaches unrecorded
      owned actualTokens called located ended recorded fresh call =>
      cases List.mem_cons.mp starts with
      | inr old => exact Or.inl old
      | inl new =>
          subst new
          exact Or.inr (Or.inr ⟨owned, actualTokens, call⟩)
  | unwind serving earlier later slot route reservation chunks failure pump reaches unrecorded owned
      actualTokens called located recorded fresh call ends =>
      cases List.mem_cons.mp starts with
      | inr old => exact Or.inl old
      | inl new =>
          subst new
          exact Or.inr (Or.inr ⟨owned, actualTokens, call⟩)
  | _ => exact Or.inl starts

/-- A question that was asked stays asked. -/
theorem Deployment.Asked.step {before after : Deployment hashApiKey fromSlice Failure}
    {engineer : AuthenticatedEngineer} {tokenBudget : UInt64}
    (asked : before.Asked engineer tokenBudget)
    (step : Deployment.Step conduct limiter maxActiveStreams before after) :
    after.Asked engineer tokenBudget := by
  obtain ⟨process, member, request, present, asked⟩ := asked
  cases step with
  | launch instant => exact ⟨process, List.mem_cons_of_mem _ member, request, present, asked⟩
  | move front behind one next accounting located step =>
      rw [located, List.mem_append, List.mem_cons] at member
      rcases member with before | rfl | after
      · exact ⟨process, List.mem_append_left _ before, request, present, asked⟩
      · obtain ⟨other, there, follows⟩ := step.requests.follows present
        exact ⟨next, List.mem_append_right _ List.mem_cons_self, other, there,
          follows.asked _ asked⟩
      · exact ⟨process, List.mem_append_right _ (List.mem_cons_of_mem _ after), request,
          present, asked⟩
  | background => exact ⟨process, member, request, present, asked⟩

/-- Every call to the accounting has its origin in a request or in background work. -/
theorem Deployment.Reached.origin
    (reached : Deployment.Reached conduct limiter maxActiveStreams deployment) :
    ∀ ticket ∈ deployment.accounting.started, deployment.Origin ticket := by
  induction reached with
  | initial => exact fun _ member => nomatch member
  | @next before after _ step inductionHypothesis =>
      have older : ∀ ticket, before.Origin ticket → after.Origin ticket := by
        intro ticket origin
        rcases origin with ⟨engineer, tokenBudget, call, asked⟩ | rest
        · exact Or.inl ⟨engineer, tokenBudget, call, asked.step step⟩
        · exact Or.inr rest
      intro ticket starts
      cases step with
      | launch instant => exact older ticket (inductionHypothesis ticket starts)
      | move front behind process next accounting located step =>
          rcases step.started starts with old | ⟨engineer, tokenBudget, call, request,
            member, asked⟩ | ⟨reservation, actualTokens, call⟩
          · exact older ticket (inductionHypothesis ticket old)
          · exact Or.inl ⟨engineer, tokenBudget, call, next,
              List.mem_append_right _ List.mem_cons_self, request, member, asked⟩
          · exact Or.inr (Or.inl ⟨reservation, actualTokens, call⟩)
      | background after step background worker =>
          rcases worker ticket starts with old | message
          · exact older ticket (inductionHypothesis ticket old)
          · exact Or.inr (Or.inr message)

/-! ### Cleared requests -/

/-- A request of the service was cleared for the engineer and had that budget prepared. -/
def Deployment.Cleared (deployment : Deployment hashApiKey fromSlice Failure)
    (engineer : AuthenticatedEngineer) (tokenBudget : UInt64) : Prop :=
  ∃ process ∈ deployment.processes, ∃ request ∈ process.serving.requests,
    Proxy.Cleared process.serving.engineers request engineer ∧
      ∃ prepared,
        (⟨.forward .prepareRequest, .ok prepared⟩ : RouteExchange Failure) ∈ request.exchanges ∧
          tokenBudget = prepared.tokenBudget

/-- Every reserve call is made for a request that was cleared, with its budget. -/
theorem Deployment.Reached.cleared
    (reached : Deployment.Reached conduct limiter maxActiveStreams deployment)
    {engineer : AuthenticatedEngineer} {tokenBudget : UInt64}
    (started : ticket ∈ deployment.accounting.started)
    (call : ticket.call = .reserve engineer tokenBudget) :
    deployment.Cleared engineer tokenBudget := by
  rcases reached.origin ticket started with ⟨engineer, tokenBudget, called, asked⟩ | ⟨_, _,
    called⟩ | ⟨_, called⟩
  · cases call.symm.trans called
    obtain ⟨process, member, request, present, asked⟩ := asked
    obtain ⟨instant, serving⟩ := reached.serving process member
    obtain ⟨history, before, prepared, ⟨_, admitted, rfl⟩, same⟩ := asked.mediated
    exact ⟨process, member, request, present,
      cleared_of_admitted (serving.queried request present)
        ((List.prefix_append _ _).trans before) admitted,
      prepared, before.subset (by simp), same⟩
  · cases call.symm.trans called
  · cases call.symm.trans called

/-! ### The quota -/

/-- Every version of the table lists the user with a limit of that kind that is no higher. -/
def ListedWithin (deployment : Deployment hashApiKey fromSlice Failure) (userId : String)
    (tokenLimit : AuthenticatedEngineer → Option UInt64) (limit : UInt64) : Prop :=
  ∀ process ∈ deployment.processes, ∀ version ∈ process.serving.engineers, ∀ item ∈ version,
    ∀ engineer, Describes item engineer → engineer.userId = userId →
      ∃ own, tokenLimit engineer = some own ∧ own ≤ limit

variable {userId : String} {tokenLimit : AuthenticatedEngineer → Option UInt64} {limit : UInt64}

/-- A cleared engineer has the limit. -/
theorem ListedWithin.limited (listed : ListedWithin deployment userId tokenLimit limit)
    {engineer : AuthenticatedEngineer} {tokenBudget : UInt64}
    (cleared : deployment.Cleared engineer tokenBudget)
    (user : engineer.userId = userId) : ∃ own, tokenLimit engineer = some own ∧ own ≤ limit := by
  obtain ⟨process, member, request, _,
    ⟨⟨apiKey, version, item, _, known, alone, describes, _⟩, _, _⟩, _⟩ := cleared
  have present : item ∈ version.filter (listedUnder (hashApiKey apiKey)) := by
    rw [alone]
    exact List.mem_singleton.mpr rfl
  exact listed process member version known item (List.mem_filter.mp present).1
    engineer describes user

/-- A usage job is built of a reservation that no record tracks. -/
theorem untracked_of_usage {reservation : TokenReservation} {actualTokens : Option UInt64}
    {jobId owner : String} {occurredAt tokenCount : UInt64}
    (builds : reservation.job actualTokens = some (.usage jobId occurredAt tokenCount owner)) :
    reservation.reservationWindow = none ∧ owner = reservation.engineer.userId ∧
      actualTokens = some tokenCount := by
  unfold TokenReservation.job at builds
  cases window : reservation.reservationWindow with
  | some window =>
      rw [window] at builds
      cases builds
  | none =>
      rw [window] at builds
      cases actualTokens with
      | none => cases builds
      | some count =>
          cases builds
          exact ⟨rfl, rfl, rfl⟩

/-- What a deployment reaches, its accounting service reaches. -/
theorem Deployment.Reached.accounted
    (reached : Deployment.Reached conduct limiter maxActiveStreams deployment) :
    Accounting.Reached deployment.accounting :=
  reached.consistent.accounting.reached

/-- Every call that may have written to the table comes from somewhere. -/
theorem Deployment.Reached.author
    (reached : Deployment.Reached conduct limiter maxActiveStreams deployment)
    {entry : LogEntry Ticket} (member : entry ∈ deployment.accounting.state.log) :
    entry.author ∈ deployment.accounting.started :=
  (sound_of_reachable reached.accounted).traced entry.author
    (Or.inr (Or.inr (Or.inr ⟨entry, member, rfl⟩)))

/-- The usage job of an engineer is that of an engineer who was cleared without limits. -/
theorem Deployment.Reached.unlimited
    (reached : Deployment.Reached conduct limiter maxActiveStreams deployment)
    (started : ticket ∈ deployment.accounting.started) {jobId owner : String}
    {occurredAt tokenCount : UInt64}
    (settles : ticket.call.job = some (.usage jobId occurredAt tokenCount owner)) :
    ∃ engineer tokenBudget, deployment.Cleared engineer tokenBudget ∧ engineer.userId = owner ∧
      engineer.dailyTokenLimit = none ∧ engineer.weeklyTokenLimit = none := by
  have sound := sound_of_reachable reached.accounted
  have owned := ownership_of_reachable reached.accounted
  obtain ⟨reconciler, reconciles, reservation, actualTokens, call, builds⟩ :=
    owned.built ticket started _ settles
  obtain ⟨untracked, rfl, _⟩ := untracked_of_usage builds
  obtain ⟨creator, returned⟩ := owned.returned reconciler reconciles reservation actualTokens call
  obtain ⟨engineer, tokenBudget, reserves, held⟩ := (sound.outcome returned).holds
  obtain ⟨daily, weekly, _⟩ := held.untracked untracked
  have known := sound.known creator (List.mem_append_right _ (List.mem_map.mpr ⟨_, returned, rfl⟩))
  exact ⟨engineer, tokenBudget, reached.cleared known reserves, by rw [held.owner], daily, weekly⟩

/-- Whoever is cleared as that user has a limit. -/
def Limited (deployment : Deployment hashApiKey fromSlice Failure) (userId : String) : Prop :=
  ∀ engineer tokenBudget, deployment.Cleared engineer tokenBudget → engineer.userId = userId →
    engineer.dailyTokenLimit ≠ none ∨ engineer.weeklyTokenLimit ≠ none

/-- Past the reservations nothing is applied to a limited user. -/
theorem Deployment.Reached.usageIn_eq_zero
    (reached : Deployment.Reached conduct limiter maxActiveStreams deployment)
    (limited : Limited deployment userId) {log : List (LogEntry Ticket)} {author : Ticket}
    {items : List TransactWriteItem} (posting : Posting practice log author items)
    (started : author ∈ deployment.accounting.started) (window : String) :
    usageIn items ⟨userId, window⟩ = 0 := by
  cases posting with
  | reservation undertaken built => exact usageIn_reservation built _
  | settlement undertaken granted => exact usageIn_settlement _ _
  | usage undertaken built =>
      obtain ⟨engineer, tokenBudget, cleared, user, daily, weekly⟩ :=
        reached.unlimited started undertaken
      rw [usageIn_usage built, (usageTransaction_paired built).amountIn]
      refine if_neg fun written => ?_
      rcases limited engineer tokenBudget cleared (user.trans written.1) with present | present
      · exact present daily
      · exact present weekly
  | recording undertaken built =>
      rcases reached.origin _ started with ⟨_, _, call, _⟩ | ⟨_, _, call⟩ | ⟨_, call⟩ <;>
        rcases undertaken with recorded | recorded <;> cases call.symm.trans recorded

/-- A window of a user stays within a limit that every reservation in it is held to. -/
theorem Deployment.Reached.count_le
    (reached : Deployment.Reached conduct limiter maxActiveStreams deployment)
    (listed : ListedWithin deployment userId tokenLimit limit) {window : String}
    (usage : IsUsageWindow window)
    (kind : ∀ engineer : AuthenticatedEngineer, tokenLimit engineer ≠ none →
      engineer.dailyTokenLimit ≠ none ∨ engineer.weeklyTokenLimit ≠ none)
    (within : ∀ {engineer tokenBudget now reservationId items before after},
      reservationTransaction engineer tokenBudget now reservationId = .ok items →
        Committed usageTable before items after →
        (⟨userId, window⟩ : Key) ∈ items.map TransactWriteItem.key → engineer.userId = userId ∧
          ∀ limit : UInt64, tokenLimit engineer = some limit →
            after.number ⟨userId, window⟩ tokenCountAttribute ≤ limit.toNat) :
    deployment.accounting.state.table.number ⟨userId, window⟩ tokenCountAttribute ≤
      limit.toNat + deployment.accounting.state.table.sumBy (overcharge userId window) := by
  have ledger := (sound_of_reachable reached.accounted).invariant.ledger
  have capped : ∀ entry ∈ deployment.accounting.state.log, ∀ engineer tokenBudget now reservationId,
      practice.reserves entry.author engineer tokenBudget →
        reservationTransaction engineer tokenBudget now reservationId = .ok entry.items →
        (⟨userId, window⟩ : Key) ∈ entry.items.map TransactWriteItem.key →
        entry.after.number ⟨userId, window⟩ tokenCountAttribute ≤ limit.toNat := by
    intro entry member engineer tokenBudget now reservationId undertaken built written
    obtain ⟨_, _, _, _, _, committed⟩ := ledger.entry member
    obtain ⟨user, below⟩ := within built committed written
    obtain ⟨own, set, smaller⟩ :=
      listed.limited (reached.cleared (reached.author member) undertaken) user
    exact (below own set).trans (Int.ofNat_le.mpr (UInt64.le_iff_toNat_le.mp smaller))
  have limited : Limited deployment userId := by
    intro engineer tokenBudget cleared user
    obtain ⟨own, set, _⟩ := listed.limited cleared user
    exact kind engineer (by rw [set]; exact Option.some_ne_none own)
  have direct : usageApplied deployment.accounting.state.log ⟨userId, window⟩ = 0 := by
    apply List.sum_eq_zero
    intro amount member
    obtain ⟨entry, logged, rfl⟩ := List.mem_map.mp member
    obtain ⟨_, _, _, _, posting, _⟩ := ledger.entry logged
    exact reached.usageIn_eq_zero limited posting (reached.author logged) window
  have bounded := (ledger.count_le usage capped).1
  rw [direct, add_zero] at bounded
  exact bounded

/-- What holds in every state of every run: budgets are reserved for cleared requests only, and what
the windows of a user count is within the limit that every version of the table gives him, but for
what completed reservations took beyond their budgets. -/
structure QuotaMetered (deployment : Deployment hashApiKey fromSlice Failure) (userId : String) :
    Prop where
  cleared : ∀ ticket ∈ deployment.accounting.started, ∀ engineer tokenBudget,
    ticket.call = .reserve engineer tokenBudget → deployment.Cleared engineer tokenBudget
  daily : ∀ limit,
    ListedWithin deployment userId AuthenticatedEngineer.dailyTokenLimit limit → ∀ day,
    deployment.accounting.state.table.number ⟨userId, dayWindow day⟩ tokenCountAttribute ≤
      limit.toNat + deployment.accounting.state.table.sumBy (overcharge userId (dayWindow day))
  weekly : ∀ limit,
    ListedWithin deployment userId AuthenticatedEngineer.weeklyTokenLimit limit → ∀ week,
    deployment.accounting.state.table.number ⟨userId, weekWindow week⟩ tokenCountAttribute ≤
      limit.toNat + deployment.accounting.state.table.sumBy (overcharge userId (weekWindow week))

/-- In every state a deployment reaches, an engineer's reservations were cleared and keep to the
limit. -/
theorem metered_quota (conduct : Conduct) (limiter : DelayedLimiter) (maxActiveStreams : UInt64)
    (deployment : Deployment hashApiKey fromSlice Failure)
    (reached : Deployment.Reached conduct limiter maxActiveStreams deployment) (userId : String) :
    QuotaMetered deployment userId where
  cleared := fun _ started _ _ call => reached.cleared started call
  daily := fun _ listed day => reached.count_le listed ⟨day, Or.inl rfl⟩ (fun _ set => Or.inl set)
    reservation_day
  weekly := fun _ listed week => reached.count_le listed ⟨week, Or.inr rfl⟩
    (fun _ set => Or.inr set) reservation_week

end Service

/-- An engineer listed with a daily limit of 1000 tokens has reserved 400 of them. -/
theorem metered_quota_sample :
    ∃ deployment : Deployment sampleHash (fun _ => none) Unit,
      deployment.Cleared sampleEngineer 400 ∧
        deployment.accounting.state.table.number ⟨"engineer", dayWindow 0⟩ tokenCountAttribute ≤
          1000 + deployment.accounting.state.table.sumBy (overcharge "engineer" (dayWindow 0)) := by
  obtain ⟨serving, request, runs, engineers, _⟩ := funded_sample Unit fun _ => none
  have metered := metered_quota _ _ _ _ (Deployment.Reached.alone runs) "engineer"
  have listed : ListedWithin ⟨[⟨serving, [], []⟩], sampleReserved⟩ "engineer"
      AuthenticatedEngineer.dailyTokenLimit 1000 := by
    intro only member version known item present engineer describes _
    rw [List.mem_singleton.mp member] at known
    change version ∈ serving.engineers at known
    rw [engineers] at known
    rw [List.mem_singleton.mp known] at present
    rw [List.mem_singleton.mp present] at describes
    have read : authenticatedEngineerFromItem (sampleItem true) =
      .ok sampleEngineer := by decide +kernel
    cases read.symm.trans (authenticatedEngineerFromItem_eq_ok.mpr describes)
    exact ⟨1000, rfl, UInt64.le_refl 1000⟩
  exact ⟨_, metered.cleared sampleReserve (List.mem_singleton.mpr rfl) sampleEngineer 400 rfl,
    metered.daily 1000 listed 0⟩

end AiGateway.Proxy
